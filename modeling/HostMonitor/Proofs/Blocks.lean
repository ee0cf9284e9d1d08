import HostMonitor.Proofs.Cutting
import HostMonitor.Service.Details

/-!
# Blocks of properties read back

A `Block` is the properties of a unit as the host prints them: one at least, of different
names.  `PrintedOn` says on which lines properties may stand, each on its own line and in
order, with remarks anywhere among them.  `Parted` says of lines that blocks stand on them,
with blank lines between any two.  What stands outside the blocks has no equals sign, and
there may be any amount of it.

From every text with such lines just these blocks are read, with their properties in order
and every value as it stands, and every list of blocks has such a text.
-/

namespace HostMonitor.Service

open Text

/-! ## Blocks on lines -/

/-- Properties as the host prints them. -/
structure Block where
  properties : Properties
  filled : properties ≠ []
  distinct : (properties.map Prod.fst).Nodup
  plain : ∀ p ∈ properties, '=' ∉ p.1.toList
  oneLine : ∀ p ∈ properties, OneLine p.1.toList ∧ OneLine p.2.toList

/-- A property on its line. -/
def propertyLine (p : String × String) : List Char := p.1.toList ++ '=' :: p.2.toList

/-- There is something on the line, but no property. -/
structure Remark (line : List Char) : Prop where
  filled : line.all isBlank = false
  plain : '=' ∉ line

/-- The lines are those of the properties, with remarks among them. -/
inductive PrintedOn : Properties → List (List Char) → Prop
  | done : PrintedOn [] []
  | property {p : String × String} {ps : Properties} {ls : List (List Char)} :
      PrintedOn ps ls → PrintedOn (p :: ps) (propertyLine p :: ls)
  | remark {line : List Char} {ps : Properties} {ls : List (List Char)} :
      Remark line → PrintedOn ps ls → PrintedOn ps (line :: ls)

/-- The blocks stand on the lines one after another, and behind each but the last there is a
blank line. -/
inductive Parted : List Block → List (List Char) → Prop
  | done : Parted [] []
  | other {line : List Char} {bs : List Block} {ls : List (List Char)} :
      '=' ∉ line → Parted bs ls → Parted bs (line :: ls)
  | last {b : Block} {body : List (List Char)} : PrintedOn b.properties body → Parted [b] body
  | block {b : Block} {body rest : List (List Char)} {line : List Char} {bs : List Block} :
      PrintedOn b.properties body → line.all isBlank = true → Parted bs rest →
      Parted (b :: bs) (body ++ line :: rest)

/-- The blocks stand on the lines of the text. -/
def Prints (bs : List Block) (text : String) : Prop := ∃ ls, Parted bs ls ∧ Lined ls text.toList

/-- The lines of a block and a blank line. -/
def Block.lines (b : Block) : List (List Char) := b.properties.map propertyLine ++ [[]]

/-- The blocks in one text, with a line feed behind each line. -/
def print (bs : List Block) : String :=
  String.ofList ((bs.flatMap Block.lines).flatMap fun line => line ++ ['\n'])

/-! ## One line -/

/-- A property with a new name is put behind those that are there. -/
theorem withLine_propertyLine {block : Properties} {p : String × String}
    (plain : '=' ∉ p.1.toList) (new : p.1 ∉ block.map Prod.fst) :
    withLine block (propertyLine p) = block ++ [p] := by
  rw [propertyLine, withLine_append plain, String.ofList_toList, String.ofList_toList,
    Keyed.put_of_not_mem new]

/-- A line with a property is not blank: the equals sign stands on it. -/
theorem not_blank_propertyLine (p : String × String) : (propertyLine p).all isBlank = false := by
  rw [List.all_eq_false]
  exact ⟨'=', by simp [propertyLine], by decide⟩

theorem oneLine_propertyLine {p : String × String}
    (one : OneLine p.1.toList ∧ OneLine p.2.toList) : OneLine (propertyLine p) := by
  refine oneLine_append.mpr ⟨one.1, List.forall_mem_cons.mpr ⟨by decide, one.2⟩⟩

/-! ## Lines read back -/

/-- The properties on lines are put behind those of the block that is open. -/
theorem blocksFrom_printedOn {ps : Properties} {body : List (List Char)}
    (printed : PrintedOn ps body) (plain : ∀ p ∈ ps, '=' ∉ p.1.toList) {block : Properties}
    (distinct : ((block ++ ps).map Prod.fst).Nodup) (rest : List (List Char)) :
    blocksFrom block (body ++ rest) = blocksFrom (block ++ ps) rest := by
  induction printed generalizing block with
  | done => rw [List.nil_append, List.append_nil]
  | @property p ps ls printed ih =>
      obtain ⟨first, plain⟩ := List.forall_mem_cons.mp plain
      have new : p.1 ∉ block.map Prod.fst := by
        rw [List.map_append, List.map_cons, List.nodup_append] at distinct
        exact fun mem => distinct.2.2 p.1 mem p.1 List.mem_cons_self rfl
      have whole : block ++ p :: ps = block ++ [p] ++ ps := List.append_cons ..
      rw [List.cons_append, blocksFrom, not_blank_propertyLine, if_neg Bool.false_ne_true,
        withLine_propertyLine first new, ih plain (whole ▸ distinct), whole]
  | remark remark _ ih =>
      rw [List.cons_append, blocksFrom, remark.filled, if_neg Bool.false_ne_true,
        withLine_of_not_mem remark.plain, ih plain distinct]

/-- Without an open block, the next one has the properties on the lines before a blank line. -/
theorem blocksFrom_block (b : Block) {body : List (List Char)}
    (printed : PrintedOn b.properties body) (rest : List (List Char)) :
    blocksFrom [] (body ++ rest) = blocksFrom b.properties rest :=
  @blocksFrom_printedOn _ _ printed b.plain [] b.distinct rest

theorem blocksFrom_parted {bs : List Block} {ls : List (List Char)} (parted : Parted bs ls) :
    blocksFrom [] ls = bs.map Block.properties := by
  induction parted with
  | done => rfl
  | other plain _ ih =>
      rw [blocksFrom, withLine_of_not_mem plain, ih]
      exact ite_self _
  | @last b body printed =>
      rw [← List.append_nil body, blocksFrom_block b printed, blocksFrom,
        List.isEmpty_eq_false_iff.mpr b.filled]
      rfl
  | @block b body rest line bs printed blank _ ih =>
      rw [blocksFrom_block b printed, blocksFrom, if_pos blank,
        List.isEmpty_eq_false_iff.mpr b.filled, ih]
      rfl

/-! ## Texts read back -/

theorem printedOn_map (ps : Properties) : PrintedOn ps (ps.map propertyLine) := by
  induction ps with
  | nil => exact .done
  | cons p ps ih => exact .property ih

theorem parted_lines (bs : List Block) : Parted bs (bs.flatMap Block.lines) := by
  induction bs with
  | nil => exact .done
  | cons b bs ih =>
      rw [List.flatMap_cons, Block.lines, List.append_assoc]
      exact .block (printedOn_map b.properties) rfl ih

theorem Block.oneLine_lines (b : Block) : ∀ line ∈ b.lines, OneLine line := by
  intro line mem
  rcases List.mem_append.mp mem with mem | mem
  · obtain ⟨p, inside, rfl⟩ := List.mem_map.mp mem
    exact oneLine_propertyLine (b.oneLine p inside)
  · rw [List.mem_singleton.mp mem]
    exact nofun

theorem prints_print (bs : List Block) : Prints bs (print bs) := by
  refine ⟨bs.flatMap Block.lines, parted_lines bs, ?_⟩
  rw [print, String.toList_ofList]
  refine lined_feeds fun line mem => ?_
  obtain ⟨b, -, inside⟩ := List.mem_flatMap.mp mem
  exact b.oneLine_lines line inside

/-- Blocks can be printed, and from every text in which they are printed just these blocks are
read: in their order, each with its properties in their order and every value as it stands. -/
theorem blocks_of_prints (bs : List Block) : Prints bs (print bs) ∧
    ∀ text, Prints bs text → blocks text = bs.map Block.properties := by
  refine ⟨prints_print bs, ?_⟩
  rintro text ⟨ls, parted, lined⟩
  rw [blocks, lines_of_lined lined]
  exact blocksFrom_parted parted

def backupBlock : Block where
  properties := [("Id", "backup.service"), ("Description", " a = b  "), ("Result", "")]
  filled := by decide
  distinct := by decide
  plain := by decide
  oneLine := by decide

def processBlock : Block where
  properties := [("MainPID", "7")]
  filled := by decide
  distinct := by decide
  plain := by decide
  oneLine := by decide

/-- Two blocks with two blank lines between them, a blank line in front and a remark inside. -/
theorem blocks_of_prints_twoBlocks :
    blocks (" \t\r\nId=backup.service\nDescription= a = b  \r\na remark\nResult=\n\n" ++
      " \x0cMainPID=7") =
      [[("Id", "backup.service"), ("Description", " a = b  "), ("Result", "")],
        [("MainPID", "7")]] := by
  have backup : PrintedOn backupBlock.properties ["Id=backup.service".toList,
      "Description= a = b  ".toList, "a remark".toList, "Result=".toList] :=
    .property (.property (.remark ⟨by decide, by decide⟩ (.property .done)))
  have process : PrintedOn processBlock.properties ["MainPID=7".toList] := .property .done
  have parted : Parted [backupBlock, processBlock] [" \t".toList, "Id=backup.service".toList,
      "Description= a = b  ".toList, "a remark".toList, "Result=".toList, [], " ".toList,
      "MainPID=7".toList] :=
    .other (by decide) (.block backup rfl (.other (by decide) (.last process)))
  have feed (line : List Char) {rest : List Char} {ls : List (List Char)} (one : OneLine line) :
      Lined ls rest → Lined (line :: ls) (line ++ '\n' :: rest) :=
    .single one (by decide) nofun
  have lined := @Lined.pair " \t".toList _ _ (by decide)
    (feed "Id=backup.service".toList (by decide)
      (@Lined.pair "Description= a = b  ".toList _ _ (by decide)
        (feed "a remark".toList (by decide)
          (feed "Result=".toList (by decide)
            (feed [] (by decide)
              (@Lined.single " ".toList _ '\x0c' _ (by decide) (by decide) nofun
                (@Lined.last "MainPID=7".toList (by decide) (by decide))))))))
  refine (blocks_of_prints [backupBlock, processBlock]).2 _ ⟨_, parted, ?_⟩
  convert lined using 1
  decide

end HostMonitor.Service

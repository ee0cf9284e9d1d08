import HostMonitor.Gateway.Offer
import HostMonitor.Proofs.Signatures
import HostMonitor.Tool.Registry
import Mathlib.Data.List.Nodup
import Mathlib.Data.List.Perm.Basic

/-!
# Running tools on what fits

Arguments fit a signature when each key is declared and each value is null or of the
declared kind.  A tool is run on the values that are not null if its arguments fit, and
otherwise it is not run, and one report tells why.

Which report that is depends on the keys first.  A key that is no text of characters is
reported before all, then all keys that are not declared, and a wrong value only when
every key is right.  Of several wrong values the one that is declared first is reported.
So neither the order of the fields nor a null under a declared key makes a difference.
-/

namespace HostMonitor

open Text

/-- Where every key stands once, the value of a key is the one beside it. -/
theorem Json.get?_eq_some_iff {fields : Fields} (once : (fields.map Prod.fst).Nodup)
    {key : WireText} {v : Json} : Fields.get? key fields = some v ↔ (key, v) ∈ fields := by
  induction fields with
  | nil => simp [Fields.get?]
  | cons f fields ih =>
      obtain ⟨k, w⟩ := f
      rw [List.map_cons, List.nodup_cons] at once
      obtain ⟨alone, once⟩ := once
      by_cases here : k = key
      · have absent : (key, v) ∉ fields := by
          rintro mem
          exact alone (List.mem_map.mpr ⟨(key, v), mem, here.symm⟩)
        simp [Fields.get?, here, absent, eq_comm]
      · simp [Fields.get?, here, Ne.symm here, ih once]

namespace Tool

/-! ## Values and kinds -/

/-- The value is of the kind.  A truth value is no integer, and neither is a floating
point number. -/
inductive OfKind : ArgumentKind → Json → Prop
  | text (t : WireText) : OfKind .text (.str t)
  | integer (n : Int) : OfKind .integer (.int n)
  | number (n : Int) : OfKind .integerOrText (.int n)
  | word (t : WireText) : OfKind .integerOrText (.str t)
  | truth (b : Bool) : OfKind .truth (.bool b)
  | texts (ts : List WireText) : OfKind .texts (.arr (ts.map .str))

theorem all_isText_iff {items : List Json} :
    items.all isText = true ↔ ∃ ts : List WireText, items = ts.map .str := by
  induction items with
  | nil => exact ⟨fun _ => ⟨[], rfl⟩, fun _ => rfl⟩
  | cons item items ih =>
      rw [List.all_cons, Bool.and_eq_true, ih]
      constructor
      · rintro ⟨first, ts, rfl⟩
        cases item with
        | str t => exact ⟨t :: ts, rfl⟩
        | _ => cases first
      · rintro ⟨ts, same⟩
        obtain ⟨t, ts, rfl, rfl, rfl⟩ := List.map_eq_cons_iff.mp same.symm
        exact ⟨rfl, ts, rfl⟩

theorem objection?_eq_none_iff {kind : ArgumentKind} {v : Json} :
    kind.objection? v = none ↔ OfKind kind v := by
  constructor
  · intro fine
    unfold ArgumentKind.objection? at fine
    split at fine
    · exact .text _
    · exact .integer _
    · exact .number _
    · exact .word _
    · exact .truth _
    · split at fine
      · next all =>
          obtain ⟨ts, rfl⟩ := all_isText_iff.mp all
          exact .texts ts
      · cases fine
    all_goals cases fine
  · intro kinded
    cases kinded with
    | texts ts => exact if_pos (all_isText_iff.mpr ⟨ts, rfl⟩)
    | _ => rfl

/-! ## Arguments that fit, and reports about others -/

/-- Each key is declared, and each value is null or of the declared kind. -/
def Fits (s : Signature) (arguments : Json.Fields) : Prop :=
  ∀ f ∈ arguments, ∃ a ∈ s, f.1 = .chars a.name ∧ (f.2 = .null ∨ OfKind a.kind f.2)

/-- The fields whose values are not null. -/
def given (arguments : Json.Fields) : Json.Fields := arguments.filter fun f => f.2 != .null

/-- The report about arguments that do not fit. -/
inductive Refuses (s : Signature) (arguments : Json.Fields) : Report → Prop
  /-- A key is no text of characters. -/
  | broken {key : WireText} {v : Json} : (key, v) ∈ arguments → key.chars? = none →
      Refuses s arguments ⟨.validation, "arguments: Input should be a valid string, " ++
        "unable to parse raw data as a unicode string", "invalid_arguments", []⟩
  /-- Some keys are not declared.  They are listed in order, whatever the values are. -/
  | unknown {keys names : List String} : arguments.map Prod.fst = keys.map .chars →
      names.Perm (keys.filter fun key => !(s.map Argument.name).contains key) →
      names.Pairwise (· ≤ ·) → names ≠ [] →
      Refuses s arguments ⟨.validation, "unknown arguments: " ++ ", ".intercalate names,
        "invalid_arguments", [("unknown", .ofStrings names)]⟩
  /-- All keys are declared, and this value is the first one of a wrong kind. -/
  | wrong {before after : Signature} {a : Argument} {v : Json} {objection : String} :
      (∀ f ∈ arguments, ∃ b ∈ s, f.1 = .chars b.name) → s = before ++ a :: after →
      (∀ b ∈ before, ∀ w, (.chars b.name, w) ∈ arguments → w = .null ∨ OfKind b.kind w) →
      (.chars a.name, v) ∈ arguments → v ≠ .null → ¬ OfKind a.kind v →
      a.kind.objection? v = some objection →
      Refuses s arguments ⟨.validation, a.name ++ ": " ++ objection, a.code,
        [("field", .ofString a.name)]⟩

section

variable {s : Signature} {arguments arguments' : Json.Fields}

theorem given?_eq_some_iff (once : (arguments.map Prod.fst).Nodup) {a : Argument} {v : Json} :
    given? a arguments = some v ↔ (.chars a.name, v) ∈ arguments ∧ v ≠ .null := by
  rw [← Json.get?_eq_some_iff once, given?]
  cases Json.Fields.get? (.chars a.name) arguments with
  | none => simp
  | some w => cases w <;> simp <;> rintro rfl <;> simp

/-- Nothing is found wrong with a declared argument when its value is null or of its kind. -/
theorem sound_iff (once : (arguments.map Prod.fst).Nodup) {a : Argument} :
    ((given? a arguments).bind fun v => (a.kind.objection? v).map (wrongValue a)) = none ↔
      ∀ v, (.chars a.name, v) ∈ arguments → v = .null ∨ OfKind a.kind v := by
  rw [Option.bind_eq_none_iff]
  simp only [given?_eq_some_iff once, Option.map_eq_none_iff, objection?_eq_none_iff]
  constructor
  · intro sound v mem
    by_cases null : v = .null
    · exact .inl null
    · exact .inr (sound v ⟨mem, null⟩)
  · rintro sound v ⟨mem, present⟩
    exact (sound v mem).resolve_left present

/-- Arguments fit when all keys are declared and nothing is found wrong with a value. -/
theorem fits_iff (distinct : (s.map Argument.name).Nodup) (once : (arguments.map Prod.fst).Nodup) :
    Fits s arguments ↔ (∀ f ∈ arguments, ∃ a ∈ s, f.1 = .chars a.name) ∧
      firstWrong? s arguments = none := by
  rw [firstWrong?, List.findSome?_eq_none_iff]
  simp only [sound_iff once]
  constructor
  · intro fits
    refine ⟨fun f mem => ?_, fun a here v mem => ?_⟩
    · obtain ⟨a, here, keyed, -⟩ := fits f mem
      exact ⟨a, here, keyed⟩
    · obtain ⟨b, there, keyed, sound⟩ := fits _ mem
      obtain rfl := List.inj_on_of_nodup_map distinct here there (WireText.chars.inj keyed)
      exact sound
  · rintro ⟨declared, sound⟩ f mem
    obtain ⟨a, here, keyed⟩ := declared f mem
    exact ⟨a, here, keyed, sound a here f.2 (keyed ▸ mem)⟩

/-! ### What a tool is given -/

/-- What a tool is given are the values that are not null. -/
theorem givenValues_perm (distinct : (s.map Argument.name).Nodup)
    (once : (arguments.map Prod.fst).Nodup) (fits : Fits s arguments) :
    (givenValues s arguments).Perm (given arguments) := by
  have single : (givenValues s arguments).Nodup := by
    rw [givenValues, List.Nodup, List.pairwise_filterMap]
    refine (List.pairwise_map.mp distinct).imp fun differ f found f' found' same => ?_
    obtain ⟨v, -, rfl⟩ := Option.map_eq_some_iff.mp found
    obtain ⟨v', -, rfl⟩ := Option.map_eq_some_iff.mp found'
    exact differ (WireText.chars.inj (congrArg Prod.fst same))
  refine (List.perm_ext_iff_of_nodup single ((List.Nodup.of_map _ once).filter _)).mpr fun f => ?_
  simp only [givenValues, List.mem_filterMap, List.mem_filter, Option.map_eq_some_iff,
    given?_eq_some_iff once, bne_iff_ne]
  constructor
  · rintro ⟨a, -, v, present, rfl⟩
    exact present
  · rintro ⟨mem, present⟩
    obtain ⟨a, here, keyed, -⟩ := fits f mem
    exact ⟨a, here, f.2, ⟨keyed ▸ mem, present⟩, keyed ▸ rfl⟩

theorem check_of_fits (distinct : (s.map Argument.name).Nodup)
    (once : (arguments.map Prod.fst).Nodup) (fits : Fits s arguments) :
    s.check arguments = .ok (givenValues s arguments) := by
  obtain ⟨declared, sound⟩ := (fits_iff distinct once).mp fits
  refine check_eq_ok_iff.mpr ⟨fun key mem => ?_, sound, rfl⟩
  obtain ⟨f, there, rfl⟩ := List.mem_map.mp mem
  obtain ⟨a, here, keyed⟩ := declared f there
  exact ⟨a.name, List.mem_map_of_mem here, keyed⟩

/-! ### What is reported -/

theorem mapM_chars?_eq_none_iff {fields : Json.Fields} :
    fields.mapM (fun field => field.1.chars?) = none ↔
      ∃ key v, (key, v) ∈ fields ∧ key.chars? = none := by
  rw [mapM_eq_none_iff]
  exact ⟨fun ⟨⟨key, v⟩, mem, broken⟩ => ⟨key, v, mem, broken⟩,
    fun ⟨key, v, mem, broken⟩ => ⟨(key, v), mem, broken⟩⟩

/-- The first key may stand before the second. -/
theorem keyLE_iff {a b : String} : (!decide (b < a)) = true ↔ a ≤ b := by
  rw [Bool.not_eq_true', decide_eq_false_iff_not, String.not_lt]

theorem pairwise_unknownKeys (s : Signature) (keys : List String) :
    (unknownKeys s keys).Pairwise (· ≤ ·) := by
  refine (List.pairwise_mergeSort (fun a b c hab hbc => ?_) (fun a b => ?_) _).imp keyLE_iff.mp
  · exact keyLE_iff.mpr (String.le_trans (keyLE_iff.mp hab) (keyLE_iff.mp hbc))
  · rw [Bool.or_eq_true, keyLE_iff, keyLE_iff]
    exact String.le_total a b

/-- Sorted keys do not depend on the order in which they came. -/
theorem unknownKeys_eq_of_perm {keys keys' : List String}
    (same : (keys.filter fun key => !(s.map Argument.name).contains key).Perm
      (keys'.filter fun key => !(s.map Argument.name).contains key)) :
    unknownKeys s keys = unknownKeys s keys' :=
  ((List.mergeSort_perm _ _).trans (same.trans (List.mergeSort_perm _ _).symm)).eq_of_pairwise
    (fun _ _ _ _ => String.le_antisymm) (pairwise_unknownKeys s keys) (pairwise_unknownKeys s keys')

theorem wrongValue_eq {a : Argument} (worded : a.code ≠ "") (objection : String) :
    wrongValue a objection = ⟨.validation, a.name ++ ": " ++ objection, a.code,
      [("field", .ofString a.name)]⟩ :=
  Report.argument_eq (by simp) worded _

theorem unknownReport_eq (names : List String) :
    unknownReport names = ⟨.validation, "unknown arguments: " ++ ", ".intercalate names,
      "invalid_arguments", [("unknown", .ofStrings names)]⟩ :=
  Report.argument_eq (by simp) (by decide) _

/-- Arguments that do not fit are refused with the one report about them. -/
theorem check_of_not_fits (distinct : (s.map Argument.name).Nodup) (worded : ∀ a ∈ s, a.code ≠ "")
    (once : (arguments.map Prod.fst).Nodup) (misfit : ¬ Fits s arguments) :
    ∃ report, Refuses s arguments report ∧ s.check arguments = .error report := by
  rw [Signature.check]
  cases texts : arguments.mapM (fun field => field.1.chars?) with
  | none =>
      obtain ⟨key, v, mem, broken⟩ := mapM_chars?_eq_none_iff.mp texts
      exact ⟨_, .broken mem broken, rfl⟩
  | some keys =>
      have keyed := mapM_chars?_eq_some_iff.mp texts
      dsimp only
      by_cases known : unknownKeys s keys = []
      · have declared : ∀ f ∈ arguments, ∃ a ∈ s, f.1 = .chars a.name := by
          intro f mem
          obtain ⟨key, inside, same⟩ := List.mem_map.mp (keyed ▸ List.mem_map_of_mem mem)
          obtain ⟨a, here, rfl⟩ := List.mem_map.mp (unknownKeys_eq_nil_iff.mp known key inside)
          exact ⟨a, here, same.symm⟩
        cases first : firstWrong? s arguments with
        | none => exact absurd ((fits_iff distinct once).mpr ⟨declared, first⟩) misfit
        | some report =>
            obtain ⟨before, a, after, rfl, found, sound⟩ := List.findSome?_eq_some_iff.mp first
            obtain ⟨v, value, objected⟩ := Option.bind_eq_some_iff.mp found
            obtain ⟨objection, objects, rfl⟩ := Option.map_eq_some_iff.mp objected
            obtain ⟨mem, present⟩ := (given?_eq_some_iff once).mp value
            have wrong : ¬ OfKind a.kind v := fun kinded => by
              rw [objection?_eq_none_iff.mpr kinded] at objects
              cases objects
            refine ⟨_, .wrong declared rfl (fun b earlier => (sound_iff once).mp (sound b earlier))
              mem present wrong objects, ?_⟩
            rw [known, ← wrongValue_eq (worded a (by simp)) objection]
            rfl
      · refine ⟨_, .unknown keyed (List.mergeSort_perm _ _) (pairwise_unknownKeys s keys) known, ?_⟩
        have some : (!(unknownKeys s keys).isEmpty) = true := by simpa using known
        rw [if_pos some, unknownReport_eq]
        rfl

/-! ### Fields in another order -/

def Signature.declares (s : Signature) (key : WireText) : Bool :=
  (s.map fun a => WireText.chars a.name).contains key

/-- The field has a weight: its value is not null, or its key is not declared. -/
def Signature.weighs (s : Signature) (f : WireText × Json) : Bool :=
  f.2 != .null || !s.declares f.1

/-- The fields with a weight are the same, in whatever order. -/
def Signature.SameWeight (s : Signature) (fields fields' : Json.Fields) : Prop :=
  (fields.filter s.weighs).Perm (fields'.filter s.weighs)

theorem Signature.SameWeight.mem_iff (same : s.SameWeight arguments arguments')
    {f : WireText × Json} (weighs : s.weighs f = true) : f ∈ arguments ↔ f ∈ arguments' := by
  have inside : f ∈ arguments.filter s.weighs ↔ f ∈ arguments'.filter s.weighs :=
    List.Perm.mem_iff same
  simpa only [List.mem_filter, weighs, and_true] using inside

theorem Signature.SameWeight.given?_eq (same : s.SameWeight arguments arguments')
    (once : (arguments.map Prod.fst).Nodup) (once' : (arguments'.map Prod.fst).Nodup)
    (a : Argument) : given? a arguments = given? a arguments' := by
  refine Option.ext fun v => ?_
  rw [given?_eq_some_iff once, given?_eq_some_iff once', and_congr_left_iff]
  intro present
  exact same.mem_iff (by simp [Signature.weighs, present])

theorem Signature.declares_chars (s : Signature) (key : String) :
    s.declares (.chars key) = (s.map Argument.name).contains key := by
  simp [declares, List.contains_eq_mem]

theorem Signature.declares_broken (s : Signature) {key : WireText} (broken : key.chars? = none) :
    s.declares key = false := by
  cases key with
  | chars name => cases broken
  | broken points lone => simp [declares]

/-- The keys that are not declared are those of fields that have a weight. -/
theorem map_chars_unknown {keys : List String} (keyed : arguments.map Prod.fst = keys.map .chars) :
    (keys.filter fun key => !(s.map Argument.name).contains key).map .chars =
      ((arguments.filter s.weighs).filter fun f => !s.declares f.1).map Prod.fst := by
  have weigh : (arguments.filter s.weighs).filter (fun f => !s.declares f.1) =
      arguments.filter ((fun key => !s.declares key) ∘ Prod.fst) := by
    rw [List.filter_filter]
    refine List.filter_congr fun f _ => ?_
    cases known : s.declares f.1 <;> simp [Signature.weighs, known]
  rw [weigh, ← List.filter_map, keyed, List.filter_map]
  refine congrArg _ (List.filter_congr fun key _ => ?_)
  rw [Function.comp_apply, s.declares_chars]

theorem Signature.SameWeight.unknown_perm (same : s.SameWeight arguments arguments')
    {keys keys' : List String} (keyed : arguments.map Prod.fst = keys.map .chars)
    (keyed' : arguments'.map Prod.fst = keys'.map .chars) :
    (keys.filter fun key => !(s.map Argument.name).contains key).Perm
      (keys'.filter fun key => !(s.map Argument.name).contains key) := by
  have injective : Function.Injective WireText.chars := fun _ _ => WireText.chars.inj
  rw [← List.map_perm_map_iff injective, map_chars_unknown keyed, map_chars_unknown keyed']
  exact (List.Perm.filter _ same).map _

theorem Signature.SameWeight.check_eq (same : s.SameWeight arguments arguments')
    (once : (arguments.map Prod.fst).Nodup) (once' : (arguments'.map Prod.fst).Nodup) :
    s.check arguments = s.check arguments' := by
  have values := same.given?_eq once once'
  have broken : (∃ key v, (key, v) ∈ arguments ∧ key.chars? = none) ↔
      ∃ key v, (key, v) ∈ arguments' ∧ key.chars? = none := by
    refine exists_congr fun key => exists_congr fun v => and_congr_left fun noText =>
      same.mem_iff ?_
    simp [Signature.weighs, s.declares_broken noText]
  have first : firstWrong? s arguments = firstWrong? s arguments' := by
    simp only [firstWrong?, values]
  have all : givenValues s arguments = givenValues s arguments' := by
    simp only [givenValues, values]
  rw [← mapM_chars?_eq_none_iff, ← mapM_chars?_eq_none_iff] at broken
  rw [Signature.check, Signature.check, first, all]
  cases texts : arguments.mapM (fun field => field.1.chars?) with
  | none => rw [broken.mp texts]
  | some keys =>
      cases texts' : arguments'.mapM (fun field => field.1.chars?) with
      | none =>
          rw [broken.mpr texts'] at texts
          cases texts
      | some keys' =>
          have perm := same.unknown_perm (mapM_chars?_eq_some_iff.mp texts)
            (mapM_chars?_eq_some_iff.mp texts')
          dsimp only
          rw [unknownKeys_eq_of_perm perm]

end

/-! ## Tools -/

namespace Registry

variable {g : Registry} {name : WireText} {s : Signature} {handler : Json.Fields → Run Json}

/-- A tool is run on what its signature makes of the arguments. -/
theorem execute_eq_check (handled : g.handlers.get? name = some handler)
    (signed : g.signatures.get? name = some s) (arguments : Json.Fields) :
    g.execute name arguments = Run.ofChecked (s.check arguments) >>= handler := by
  rw [execute, Table.entry, Table.entry, handled, signed]
  dsimp only
  rw [Run.bind_of_ok rfl]
  cases s.check arguments <;> rfl

/-- Either tool runs once on exactly the values that are not null, as they were sent, when
its arguments fit.  Otherwise it does not run, and the report is the one about the
arguments.  Fields in another order, with more or fewer nulls under declared keys, make no
difference. -/
theorem execute_exact (handled : g.handlers.get? name = some handler)
    (signed : g.signatures.get? name = some s)
    (known : s = servicesSignature ∨ s = logsSignature) {arguments : Json.Fields}
    (once : (arguments.map Prod.fst).Nodup) :
    (Fits s arguments → ∃ values : Json.Fields, values.Perm (given arguments) ∧
        g.execute name arguments = handler values) ∧
      (¬ Fits s arguments → ∃ report, Refuses s arguments report ∧
        g.execute name arguments = .fail (.reported report)) ∧
      ∀ arguments' : Json.Fields, (arguments'.map Prod.fst).Nodup →
        s.SameWeight arguments arguments' →
        g.execute name arguments' = g.execute name arguments := by
  have distinct : (s.map Argument.name).Nodup := by
    rcases known with rfl | rfl <;> decide
  have worded : ∀ a ∈ s, a.code ≠ "" := by
    rcases known with rfl | rfl <;> decide
  simp only [execute_eq_check handled signed]
  refine ⟨fun fits => ?_, fun misfit => ?_, fun arguments' once' same => ?_⟩
  · refine ⟨_, givenValues_perm distinct once fits, ?_⟩
    rw [check_of_fits distinct once fits]
    exact Run.bind_of_ok rfl _
  · obtain ⟨report, refuses, checked⟩ := check_of_not_fits distinct worded once misfit
    refine ⟨report, refuses, ?_⟩
    rw [checked]
    rfl
  · rw [same.check_eq once once']

/-- A registry with one tool, which takes the arguments of a list of services and gives
back what it is given. -/
def returning : Registry :=
  empty.setTool ⟨"list_services", "", .obj [], .obj [], servicesSignature,
    fun values => .done (.obj values), none⟩

/-- Two values are given to the tool, and the null is not.  Without it and the other way
round they are given to it alike. -/
theorem execute_exact_returning :
    (∃ values : Json.Fields, values.Perm [("limit", .int 5), ("state", .ofString "failed")] ∧
        returning.execute "list_services"
          [("limit", .int 5), ("name_contains", .null), ("state", .ofString "failed")] =
          .done (.obj values)) ∧
      returning.execute "list_services" [("state", .ofString "failed"), ("limit", .int 5)] =
        returning.execute "list_services"
          [("limit", .int 5), ("name_contains", .null), ("state", .ofString "failed")] := by
  obtain ⟨accepts, -, apart⟩ := @execute_exact returning "list_services" servicesSignature _ rfl rfl
    (.inl rfl) [("limit", .int 5), ("name_contains", .null), ("state", .ofString "failed")]
    (by decide)
  refine ⟨accepts ?_, apart _ (by decide) (.swap _ _ _)⟩
  simp only [Fits, List.forall_mem_cons]
  refine ⟨⟨⟨"limit", .integer, "invalid_limit"⟩, by decide, rfl, .inr (.integer 5)⟩,
    ⟨⟨"name_contains", .text, invalidArguments⟩, by decide, rfl, .inl trivial⟩,
    ⟨⟨"state", .text, "invalid_state"⟩, by decide, rfl, .inr (.text _)⟩, nofun⟩

/-- Beside a key that is no text of characters, a key that is not declared is not listed. -/
theorem brokenKey_unlisted :
    ∃ report, returning.execute "list_services" [("b", .int 1), (.broken [0xD800] rfl, .int 2)] =
        .fail (.reported report) ∧
      "b" ∉ servicesSignature.map Argument.name ∧ report.code = "invalid_arguments" ∧
      Json.Fields.get? "unknown" report.details = none ∧
      report.message = "arguments: Input should be a valid string, unable to parse raw data " ++
        "as a unicode string" :=
  ⟨brokenKeyReport, rfl, by decide, by decide, rfl, by decide⟩

end Registry

end Tool

end HostMonitor

import HostMonitor.Proofs.Auditing
import HostMonitor.Proofs.Written

/-!
# Records that cannot be forged

The record of a call is a line with three parts, the method, the parameters and the
outcome, and words between them.  The client chooses the method, and it may choose one
that holds the words.  Still no other call has the same line.

The outcome stands at the end.  The parameters are written as a document, so the words
can only stand in it inside quotes.  If the line could be cut at an earlier place, the
document after the later one would be the end of a document that starts outside of
quotes, and it would be read from inside.  From there it leads to inside, and a document
leads to outside.
-/

namespace HostMonitor

open Number Text

namespace Json

/-! ## Documents lead to outside -/

theorem bare_toDigits (n : Nat) : ∀ c ∈ Nat.toDigits 10 n, Bare c :=
  fun _ mem => bare_digit (Time.isDigit_toDigits mem)

theorem bare_writeInt (n : Int) : ∀ c ∈ writeInt n, Bare c := by
  rw [writeInt]
  split
  · exact List.forall_mem_cons.mpr ⟨by decide, bare_toDigits _⟩
  · exact bare_toDigits _

theorem bare_zeros (n : Nat) : ∀ c ∈ List.replicate n '0', Bare c := by
  intro c mem
  rw [List.eq_of_mem_replicate mem]
  decide

theorem bare_power (l : Layout) (p : Int) : ∀ c ∈ l.power p, Bare c := by
  rw [Layout.power]
  refine List.forall_mem_cons.mpr ⟨?_, List.forall_mem_append.mpr ⟨bare_zeros _, bare_toDigits _⟩⟩
  split <;> decide

theorem bare_decimal (l : Layout) (d : Decimal) : ∀ c ∈ l.decimal d, Bare c := by
  have digits := bare_toDigits d.digits
  rw [Layout.decimal]
  split
  · split
    · refine List.forall_mem_cons.mpr ⟨by decide, List.forall_mem_cons.mpr ⟨by decide, ?_⟩⟩
      exact List.forall_mem_append.mpr ⟨bare_zeros _, digits⟩
    · split
      · refine List.forall_mem_append.mpr ⟨List.forall_mem_append.mpr ⟨digits, bare_zeros _⟩, ?_⟩
        exact bare_of_all (by decide)
      · refine List.forall_mem_append.mpr ⟨fun c mem => digits c (List.mem_of_mem_take mem), ?_⟩
        exact List.forall_mem_cons.mpr ⟨by decide, fun c mem => digits c (List.mem_of_mem_drop mem)⟩
  · split
    · nofun
    · next digit e =>
        rw [e, List.forall_mem_cons] at digits
        refine List.forall_mem_cons.mpr ⟨digits.1, List.forall_mem_cons.mpr ⟨by decide, ?_⟩⟩
        exact bare_power l _
    · next digit more _ e =>
        rw [e, List.forall_mem_cons] at digits
        refine List.forall_mem_cons.mpr ⟨digits.1, List.forall_mem_cons.mpr ⟨by decide, ?_⟩⟩
        refine List.forall_mem_append.mpr ⟨digits.2, List.forall_mem_cons.mpr ⟨by decide, ?_⟩⟩
        exact bare_power l _

theorem bare_writeFloat (x : Binary64) : ∀ c ∈ Layout.document.write x, Bare c := by
  cases x with
  | nan => exact bare_of_all (by decide)
  | infinite negative => cases negative <;> exact bare_of_all (by decide)
  | finite negative mantissa exponent =>
      refine List.forall_mem_append.mpr ⟨?_, ?_⟩
      · cases negative <;> exact bare_of_all (by decide)
      · split
        · exact bare_of_all (by decide)
        · exact bare_decimal _ _

theorem leads_writePoints (points : List Nat) :
    Leads true (points.flatMap (writePoint true)) true := by
  induction points with
  | nil => exact .nil
  | cons point points ih =>
      obtain ⟨_, marks, _⟩ := marks_writePoint point
      rw [List.flatMap_cons]
      exact (leads_of_marks marks).append ih

theorem leads_writeText (t : WireText) : Leads false (writeText true t) false :=
  .quote ((leads_writePoints t.points).append (.quote .nil))

theorem leads_writeItems {items : List Json}
    (each : ∀ v ∈ items, Leads false (write .wide v) false) :
    Leads false (writeItems .wide items) false := by
  induction items with
  | nil => exact .nil
  | cons v items ih =>
      obtain ⟨first, rest⟩ := List.forall_mem_cons.mp each
      cases items with
      | nil => exact first
      | cons w items =>
          exact (first.append (leads_of_bare (bare_of_all (by decide)))).append (ih rest)

theorem leads_writeFields {fields : Fields}
    (each : ∀ f ∈ fields, Leads false (write .wide f.2) false) :
    Leads false (writeFields .wide fields) false := by
  induction fields with
  | nil => exact .nil
  | cons f fields ih =>
      obtain ⟨first, rest⟩ := List.forall_mem_cons.mp each
      have field : Leads false (writeText true f.1 ++ [':', ' '] ++ write .wide f.2) false :=
        ((leads_writeText f.1).append (leads_of_bare (bare_of_all (by decide)))).append first
      cases fields with
      | nil => exact field
      | cons g fields =>
          exact (field.append (leads_of_bare (bare_of_all (by decide)))).append (ih rest)

/-- A document is written from outside to outside, whatever it holds. -/
theorem leads_write (v : Json) : Leads false (write .wide v) false := by
  induction v using Json.inductOn with
  | scalar v scalar =>
      cases v with
      | null => exact leads_of_bare (bare_of_all (by decide))
      | bool b => cases b <;> exact leads_of_bare (bare_of_all (by decide))
      | int n => exact leads_of_bare (bare_writeInt n)
      | float x => exact leads_of_bare (bare_writeFloat x)
      | str t => exact leads_writeText t
      | arr items => cases scalar
      | obj fields => cases scalar
  | arr items each =>
      exact .bare (by decide)
        ((leads_writeItems each).append (leads_of_bare (bare_of_all (by decide))))
  | obj fields each =>
      exact .bare (by decide)
        ((leads_writeFields each).append (leads_of_bare (bare_of_all (by decide))))

/-! ## Cutting a record -/

/-- The words before the parameters do not stand in a document before another one. -/
theorem not_before_write (v v' : Json) (cs : List Char) :
    write .wide v ≠ cs ++ (" params=".toList ++ write .wide v') := by
  intro same
  have whole := leads_write v
  have words : cs ++ (" params=".toList ++ write .wide v') =
      (cs ++ " params".toList) ++ '=' :: write .wide v' := by
    rw [List.append_assoc]
    rfl
  rw [same, words] at whole
  have inside : Leads true (write .wide v') false :=
    whole.after (by decide) (by decide) (by decide)
  exact absurd ((leads_write v').flip inside) (by decide)

/-- A text in front of the words leaves nothing of a document in front of them. -/
theorem eq_nil_of_words {v v' : Json} {cs : List Char}
    (same : " params=".toList ++ write .wide v = cs ++ (" params=".toList ++ write .wide v')) :
    cs = [] := by
  rcases List.append_eq_append_iff.mp same with ⟨more, _, e⟩ | ⟨rest, words, e⟩
  · exact absurd e (not_before_write v v' more)
  · cases cs with
    | nil => rfl
    | cons c cs =>
        cases rest with
        | nil => exact absurd e.symm (not_before_write v v' [])
        | cons d rest =>
            -- The words would start again inside of themselves, with a blank.
            have later : d ∈ "params=".toList := by
              have tail : "params=".toList = cs ++ d :: rest := (List.cons.inj words).2
              rw [tail]
              exact List.mem_append_right _ List.mem_cons_self
            have first : ' ' = d := (List.cons.inj e).1
            exact absurd (first ▸ later) (by decide)

/-- What stands before the words and what is written after them can be told apart. -/
theorem eq_of_words {v v' : Json} {cs ds : List Char}
    (same : cs ++ (" params=".toList ++ write .wide v) =
      ds ++ (" params=".toList ++ write .wide v')) :
    cs = ds ∧ write .wide v = write .wide v' := by
  have before : cs = ds := by
    rcases List.append_eq_append_iff.mp same with ⟨more, e, words⟩ | ⟨more, e, words⟩
    · rw [e, eq_nil_of_words words, List.append_nil]
    · rw [e, eq_nil_of_words words, List.append_nil]
  refine ⟨before, ?_⟩
  rw [before] at same
  exact List.append_cancel_left (List.append_cancel_left same)

end Json

/-! ## Records -/

/-- The outcome in the line of a record. -/
def Notice.ending (failed : Bool) : List Char :=
  " outcome=".toList ++ (if failed then "failure" else "success").toList

theorem Notice.toList_text_audited (method : String) (v : Json) (failed : Bool) :
    (Notice.audited method v.wide failed).text.toList = "mcp action audited: method=".toList ++
      ((method.toList ++ (" params=".toList ++ Json.write .wide v)) ++ ending failed) := by
  have parts : (Notice.audited method v.wide failed).text = "mcp action audited: method=" ++
      method ++ " params=" ++ v.wide ++ " outcome=" ++ if failed then "failure" else "success" :=
    rfl
  have document : v.wide.toList = Json.write .wide v := String.toList_ofList
  rw [parts, ← document]
  simp only [String.toList_append, List.append_assoc]
  rfl

theorem Notice.length_ending : ∀ failed : Bool, (ending failed).length = 16 := by decide

theorem Notice.ending_inj : ∀ {failed failed' : Bool}, ending failed = ending failed' →
    failed = failed' := by
  decide

/-- The line of a record can be read in one way. -/
theorem Notice.text_audited_inj {method method' : String} {v v' : Json} {failed failed' : Bool}
    (same : (Notice.audited method v.wide failed).text =
      (Notice.audited method' v'.wide failed').text) :
    method = method' ∧ v.wide = v'.wide ∧ failed = failed' := by
  have chars := (toList_text_audited method v failed).symm.trans
    ((congrArg String.toList same).trans (toList_text_audited method' v' failed'))
  have long : (ending failed).length = (ending failed').length :=
    (length_ending failed).trans (length_ending failed').symm
  obtain ⟨before, ends⟩ := List.append_inj' (List.append_cancel_left chars) long
  obtain ⟨methods, documents⟩ := Json.eq_of_words before
  exact ⟨String.toList_inj.mp methods, congrArg String.ofList documents, ending_inj ends⟩

namespace Rpc

open Audit

/-- What is recorded is the method, the parameters without their secrets, and whether
the reply is an error. -/
theorem eq_of_mem_record {reach : Nat} {r : Request} {reply : Reply} {note : Notice}
    (h : .noted note ∈ (record reach r reply).events) :
    note = .audited r.method (redact r.params.document).wide reply.isError := by
  rw [record, redactWithin] at h
  split at h
  · next params within =>
      split at within
      · cases within
        simpa using h
      · cases within
  · cases h

/-- Two calls have records with the same text only if they are of the same method, their
parameters without secrets are written the same, and both fail or neither does. -/
theorem record_legible {reach reach' : Nat} {r r' : Request} {reply reply' : Reply}
    {note note' : Notice} (written : .noted note ∈ (record reach r reply).events)
    (written' : .noted note' ∈ (record reach' r' reply').events) (same : note.text = note'.text) :
    r.method = r'.method ∧
      (redact r.params.document).wide = (redact r'.params.document).wide ∧
      reply.isError = reply'.isError := by
  rw [eq_of_mem_record written, eq_of_mem_record written'] at same
  exact Notice.text_audited_inj same

/-- A call whose method holds the words of a record, with a secret. -/
def wordyCall (secret : String) : Request :=
  ⟨"ping params=null outcome=failure", .named [("token", .ofString secret)], some (.int 1)⟩

/-- Two such calls have the same record, and only their secrets differ. -/
theorem record_legible_wordyCall :
    ∃ note, .noted note ∈ (record auditReach (wordyCall "a") ⟨none, .ok .null⟩).events ∧
      .noted note ∈ (record auditReach (wordyCall "b") ⟨none, .ok .null⟩).events ∧
      (redact (wordyCall "a").params.document).wide =
        (redact (wordyCall "b").params.document).wide := by
  have written : .noted (.audited (wordyCall "a").method
      (redact (wordyCall "a").params.document).wide false) ∈
        (record auditReach (wordyCall "a") ⟨none, .ok .null⟩).events := List.mem_singleton.mpr rfl
  have written' : .noted (.audited (wordyCall "a").method
      (redact (wordyCall "a").params.document).wide false) ∈
        (record auditReach (wordyCall "b") ⟨none, .ok .null⟩).events := List.mem_singleton.mpr rfl
  exact ⟨_, written, written', (record_legible written written' rfl).2.1⟩

end Rpc

end HostMonitor

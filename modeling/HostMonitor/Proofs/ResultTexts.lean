import HostMonitor.Proofs.Registration

/-!
# Texts of results

The result of a tool is sent with a text.  The text is made by the last summary that was
registered under the name of the tool, and it is the document itself where none ever was.
A document that cannot be written has no text, and a call that needs it fails.

A registration without a summary leaves an earlier one in its table.  So the text follows
the last registration of a name when that one has a summary, and when no earlier one has.
Everything else about a call follows the last registration, as `StandsFor` says.
-/

namespace HostMonitor.Tool

open Text

/-- The summary is the last one under the name: what is registered later under the name
has none. -/
def LastSummary (tools : List ToolEntry) (name : String) (summary : Json → String) : Prop :=
  ∃ before t after, tools = before ++ t :: after ∧ t.name = name ∧ t.summary = some summary ∧
    ∀ u ∈ after, u.name = name → u.summary = none

section

variable {tools : List ToolEntry} {t : ToolEntry} {name : String} {summary : Json → String}

theorem lastSummary_concat_iff :
    LastSummary (tools ++ [t]) name summary ↔ t.name = name ∧ t.summary = some summary ∨
      LastSummary tools name summary ∧ (t.name = name → t.summary = none) := by
  constructor
  · rintro ⟨before, u, after, e, named, has, none⟩
    rcases List.eq_nil_or_concat after with rfl | ⟨after, v, rfl⟩
    · obtain ⟨-, last⟩ := List.append_inj' e rfl
      cases last
      exact .inl ⟨named, has⟩
    · rw [List.concat_eq_append, ← List.cons_append, ← List.append_assoc] at e
      obtain ⟨front, last⟩ := List.append_inj' e rfl
      cases last
      exact .inr ⟨⟨before, u, after, front, named, has, fun w mem => none w (by simp [mem])⟩,
        none t (by simp)⟩
  · rintro (⟨named, has⟩ | ⟨⟨before, u, after, rfl, named, has, none⟩, silent⟩)
    · exact ⟨tools, t, [], rfl, named, has, by simp⟩
    · refine ⟨before, u, after ++ [t], by simp, named, has, fun w mem => ?_⟩
      rcases List.mem_append.mp mem with mem | mem
      · exact none w mem
      · rw [List.mem_singleton.mp mem]
        exact silent

/-- The last summary of a name is the last item of its key among all summaries. -/
theorem isLast_summariesOf_iff :
    IsLast Prod.fst (summariesOf tools) (name, summary) ↔ LastSummary tools name summary := by
  induction tools using List.reverseRecOn with
  | nil => simp [summariesOf, IsLast, LastSummary]
  | append_singleton tools t ih =>
      rw [lastSummary_concat_iff, ← ih]
      cases has : t.summary with
      | none => simp [summariesOf, has]
      | some other =>
          rw [show summariesOf (tools ++ [t]) = summariesOf tools ++ [(t.name, other)] by
            simp [summariesOf, has], isLast_concat_iff]
          simp [eq_comm]

/-- A name has a last summary, or no registration of it has one. -/
theorem exists_lastSummary (tools : List ToolEntry) (name : String) :
    (∃ summary, LastSummary tools name summary) ∨
      ∀ t ∈ tools, t.name = name → t.summary = none := by
  induction tools using List.reverseRecOn with
  | nil => simp
  | append_singleton tools t ih =>
      by_cases silent : t.name = name → t.summary = none
      · rcases ih with ⟨summary, last⟩ | never
        · exact .inl ⟨summary, lastSummary_concat_iff.mpr (.inr ⟨last, silent⟩)⟩
        · right
          intro u mem
          rcases List.mem_append.mp mem with mem | mem
          · exact never u mem
          · rw [List.mem_singleton.mp mem]
            exact silent
      · obtain ⟨named, has⟩ := Classical.not_imp.mp silent
        obtain ⟨summary, has⟩ := Option.ne_none_iff_exists'.mp has
        exact .inl ⟨summary, lastSummary_concat_iff.mpr (.inl ⟨named, has⟩)⟩

theorem lastSummary_of_isLast (last : IsLast ToolEntry.name tools t)
    (has : t.summary = some summary) : LastSummary tools t.name summary := by
  obtain ⟨before, after, e, none⟩ := last
  exact ⟨before, t, after, e, rfl, has, fun u mem same => absurd same (none u mem)⟩

end

namespace Registry

open Table

variable {tools : List ToolEntry} {resources : List ResourceEntry} {name : String}

theorem get?_summaries_of_lastSummary {summary : Json → String}
    (last : LastSummary tools name summary) :
    (of tools resources).summaries.get? name = some summary := by
  have found := get?_ofItems (isLast_summariesOf_iff.mpr last)
  simp only [of, get?_mapValues, found, Option.map_some]

theorem get?_summaries_of_unsummarised (never : ∀ t ∈ tools, t.name = name → t.summary = none) :
    (of tools resources).summaries.get? name = none := by
  have absent : ∀ p ∈ summariesOf tools, (name : WireText) ≠ .chars p.1 := by
    intro p mem same
    obtain ⟨t, here, named, has⟩ := mem_summariesOf_iff.mp mem
    rw [never t here (named.trans (WireText.chars.inj same).symm)] at has
    cases has
  simp only [of, get?_mapValues, get?_ofItems_eq_none absent, Option.map_none]

/-- A tool is called as it was last registered, but for its text. -/
theorem callTool_of {t : ToolEntry} {arguments given : Json.Fields} {result : Json}
    (last : IsLast ToolEntry.name tools t) (fits : t.signature.check arguments = .ok given)
    (returned : (t.handler given).outcome = .ok result) :
    (of tools resources).callTool t.name arguments = ⟨(t.handler given).events,
      (resultText ((of tools resources).summaries.get? t.name) result).map fun text =>
        toolResult text result⟩ := by
  have ran : (of tools resources).execute t.name arguments =
      ⟨(t.handler given).events, .ok result⟩ := by
    rw [execute_of last, fits, Run.bind_of_ok rfl, returned]
    rfl
  rw [callTool, ran, Run.bind_of_ok rfl]
  cases resultText ((of tools resources).summaries.get? t.name) result with
  | ok text => simp [Except.map, Run.bind_of_ok]
  | error f => simp [Except.map, Run.bind_of_error]

/-- A call of a tool runs it as it was last registered.  Its text is what the last summary
under its name makes of the result, and the result itself where there never was one: then
the call fails when the result cannot be written.  So when the last registration has a
summary, the text is made by that one. -/
theorem registerAll_callTool (rs : List Registration) {t : ToolEntry}
    {arguments given : Json.Fields} {result : Json}
    (last : IsLast ToolEntry.name (toolsOf rs) t)
    (fits : t.signature.check arguments = .ok given)
    (returned : (t.handler given).outcome = .ok result) :
    ∃ g, (empty.registerAll rs).outcome = .ok g ∧
      (g.callTool t.name arguments).events = (t.handler given).events ∧
      (∀ summary, LastSummary (toolsOf rs) t.name summary →
        (g.callTool t.name arguments).outcome = .ok (.record [("content", .arr [.record
          [("type", .ofString "text"), ("text", .ofString (summary result))]]),
            ("structuredContent", result)])) ∧
      ((∀ u ∈ toolsOf rs, u.name = t.name → u.summary = none) →
        (result.Writable → (g.callTool t.name arguments).outcome = .ok (.record
          [("content", .arr [.record [("type", .ofString "text"),
            ("text", .ofString result.wide)]]), ("structuredContent", result)])) ∧
        (¬ result.Writable → (g.callTool t.name arguments).outcome = .error .unwritable)) ∧
      ((∃ summary, LastSummary (toolsOf rs) t.name summary) ∨
        ∀ u ∈ toolsOf rs, u.name = t.name → u.summary = none) ∧
      ∀ summary, t.summary = some summary → LastSummary (toolsOf rs) t.name summary := by
  let g := of (toolsOf rs) (resourcesOf rs)
  have called : g.callTool t.name arguments = _ := callTool_of last fits returned
  refine ⟨g, by rw [registerAll_empty], by rw [called], fun summary recent => ?_,
    fun never => ⟨fun writable => ?_, fun unwritable => ?_⟩, exists_lastSummary _ _,
    fun summary => lastSummary_of_isLast last⟩
  · rw [called, get?_summaries_of_lastSummary recent]
    rfl
  · rw [called, get?_summaries_of_unsummarised never, resultText, dumped_of_writable writable]
    rfl
  · rw [called, get?_summaries_of_unsummarised never, resultText,
      dumped_of_not_writable unwritable]
    rfl

theorem check_constantTool (name : String) (value : Json) :
    (constantTool name value).signature.check [] = .ok [] := by
  simp [constantTool, Signature.check, unknownKeys, firstWrong?, givenValues]

/-- A tool that is registered with a summary, and then without one. -/
def resummarised : List Registration :=
  [.tool { constantTool "a" (.obj []) with summary := some fun _ => "old" },
   .tool (constantTool "a" (.obj []))]

/-- The tool is last registered without a summary. -/
theorem isLast_resummarised :
    IsLast ToolEntry.name (toolsOf resummarised) (constantTool "a" (.obj [])) :=
  ⟨(toolsOf resummarised).take 1, [], rfl, nofun⟩

theorem lastSummary_resummarised : LastSummary (toolsOf resummarised) "a" fun _ => "old" :=
  ⟨[], _, (toolsOf resummarised).drop 1, rfl, rfl, rfl, fun u mem _ => by
    rw [List.mem_singleton.mp mem]
    rfl⟩

theorem registerAll_callTool_resummarised :
    IsLast ToolEntry.name (toolsOf resummarised) (constantTool "a" (.obj [])) ∧
      ∃ g, (empty.registerAll resummarised).outcome = .ok g ∧
        (g.callTool "a" []).outcome = .ok (.record [("content", .arr [.record
          [("type", .ofString "text"), ("text", .ofString "old")]]),
            ("structuredContent", .obj [])]) := by
  obtain ⟨g, registered, -, recent, -⟩ :=
    @registerAll_callTool resummarised _ [] [] _ isLast_resummarised (check_constantTool _ _) rfl
  exact ⟨isLast_resummarised, g, registered, recent _ lastSummary_resummarised⟩

/-- The last registration has no summary, and still the text is not the result. -/
theorem resummarised_keeps_summary :
    ∃ g t, (empty.registerAll resummarised).outcome = .ok g ∧
      IsLast ToolEntry.name (toolsOf resummarised) t ∧ t.name = "a" ∧ t.summary = none ∧
      (g.callTool "a" []).outcome = .ok (.record [("content", .arr [.record
        [("type", .ofString "text"), ("text", .ofString "old")]]),
          ("structuredContent", .obj [])]) ∧
      "old" ≠ (Json.obj []).wide := by
  have called := @callTool_of _ [] _ _ _ _ isLast_resummarised (check_constantTool _ _) rfl
  have text := @get?_summaries_of_lastSummary _ [] _ _ lastSummary_resummarised
  have outcome := congrArg Run.outcome called
  rw [show (constantTool "a" (.obj [])).name = "a" from rfl, text] at outcome
  exact ⟨of (toolsOf resummarised) [], _, by rw [registerAll_empty]; rfl, isLast_resummarised, rfl,
    rfl, outcome, by decide⟩

end Registry

end HostMonitor.Tool

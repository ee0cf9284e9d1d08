import HostMonitor.Gateway.Offer
import HostMonitor.Tool.Registry
import Mathlib.Data.List.Basic
import Mathlib.Data.List.Induction
import Mathlib.Data.List.Nodup

/-!
# Registration

Whatever is registered, and however often, the registry stands for the last
registration of each key.  Its tables have the same keys, in the order in which they
were first registered, so no table lacks a key that another one has.

`Registry.of` says what the tables are after a list of tools and a list of resources.
One registration leads from it to itself, and so does a list of them.
-/

namespace HostMonitor.Tool

open Text

/-! ## Last registrations -/

section

variable {α : Type} {key : α → String} {items : List α}

/-- The item is one of the list, and none with its key comes after it. -/
def IsLast (key : α → String) (items : List α) (a : α) : Prop :=
  ∃ before after, items = before ++ a :: after ∧ ∀ b ∈ after, key b ≠ key a

/-- The last items of all keys, in the order in which the keys first occur. -/
structure Lasts (key : α → String) (items last : List α) : Prop where
  each : ∀ a ∈ last, IsLast key items a
  all : ∀ k, k ∈ last.map key ↔ k ∈ items.map key
  order : (last.map key).Pairwise fun k l => (items.map key).idxOf k < (items.map key).idxOf l

theorem isLast_concat_iff {a b : α} :
    IsLast key (items ++ [a]) b ↔ b = a ∨ IsLast key items b ∧ key b ≠ key a := by
  constructor
  · rintro ⟨before, after, e, none⟩
    rcases List.eq_nil_or_concat after with rfl | ⟨after, c, rfl⟩
    · exact .inl (List.cons.inj (List.append_inj' e rfl).2).1.symm
    · right
      rw [List.concat_eq_append, ← List.cons_append, ← List.append_assoc] at e
      obtain ⟨front, last⟩ := List.append_inj' e rfl
      cases last
      exact ⟨⟨before, after, front, fun d mem => none d (by simp [mem])⟩,
        fun same => none a (by simp) same.symm⟩
  · rintro (rfl | ⟨⟨before, after, e, none⟩, other⟩)
    · exact ⟨items, [], rfl, nofun⟩
    · refine ⟨before, after ++ [a], by rw [e, List.append_assoc, List.cons_append], ?_⟩
      intro c mem
      rcases List.mem_append.mp mem with mem | mem
      · exact none c mem
      · rw [List.mem_singleton.mp mem]
        exact other.symm

/-- Where all keys differ, every item is the last one with its key. -/
theorem isLast_of_mem {a : α} (once : (items.map key).Nodup) (mem : a ∈ items) :
    IsLast key items a := by
  obtain ⟨before, after, rfl⟩ := List.append_of_mem mem
  refine ⟨before, after, rfl, fun b later same => ?_⟩
  rw [List.map_append, List.map_cons] at once
  have alone := (List.nodup_cons.mp (List.nodup_append.mp once).2.1).1
  exact alone (same ▸ List.mem_map_of_mem later)

end

/-! ## Tables -/

namespace Table

open Keyed

variable {α β : Type} {t : Table α} {k : String} {v : α}

theorem get?_eq_some_iff (once : t.keys.Nodup) :
    t.get? (.chars k) = some v ↔ (k, v) ∈ t := by
  induction t with
  | nil => simp [get?]
  | cons q t ih =>
      obtain ⟨l, w⟩ := q
      obtain ⟨alone, rest⟩ := List.nodup_cons.mp (show (l :: keys t).Nodup from once)
      by_cases here : k = l
      · have absent : (k, v) ∉ t := fun mem => alone (here ▸ List.mem_map_of_mem mem)
        simp [get?, here, eq_comm, here ▸ absent]
      · simpa [get?, here] using ih rest

theorem get?_eq_none_iff {key : WireText} :
    t.get? key = none ↔ ∀ p ∈ t, key ≠ .chars p.1 := by
  induction t with
  | nil => simp [get?]
  | cons q t ih =>
      obtain ⟨l, w⟩ := q
      by_cases here : key = .chars l
      · simp [get?, here]
      · simp [get?, here, ih]

/-! ### Values of a table -/

theorem get?_mapValues (f : α → β) (key : WireText) :
    get? key (t.mapValues f) = (t.get? key).map f := by
  induction t with
  | nil => rfl
  | cons p t ih =>
      obtain ⟨l, w⟩ := p
      simp only [mapValues, List.map_cons, get?] at ih ⊢
      split
      · rfl
      · exact ih

/-! ### Tables of items -/

/-- The table of items by their keys. -/
def ofItems (key : α → String) (items : List α) : Table α :=
  items.foldl (fun t a => t.put (key a) a) []

section

variable {key : α → String} {items : List α}

theorem ofItems_concat (a : α) :
    ofItems key (items ++ [a]) = (ofItems key items).put (key a) a := List.foldl_concat ..

theorem mem_keys_ofItems_iff : k ∈ (ofItems key items).keys ↔ k ∈ items.map key := by
  induction items using List.reverseRecOn with
  | nil => simp [ofItems, keys]
  | append_singleton items a ih =>
      rw [ofItems_concat, keys_put, List.map_append, List.mem_append, ← ih]
      by_cases here : key a ∈ (ofItems key items).keys
      · rw [if_pos here]
        refine ⟨.inl, fun h => h.elim id fun mem => ?_⟩
        rwa [List.mem_singleton.mp mem]
      · rw [if_neg here, List.mem_append]
        rfl

/-- Keys stand in the order in which they first occur. -/
theorem pairwise_keys_ofItems : (ofItems key items).keys.Pairwise fun k l =>
    (items.map key).idxOf k < (items.map key).idxOf l := by
  induction items using List.reverseRecOn with
  | nil => exact .nil
  | append_singleton items a ih =>
      have early : ∀ {k : String}, k ∈ (ofItems key items).keys →
          ((items ++ [a]).map key).idxOf k = (items.map key).idxOf k := fun mem => by
        rw [List.map_append, List.idxOf_append_of_mem (mem_keys_ofItems_iff.mp mem)]
      have before : (ofItems key items).keys.Pairwise fun k l =>
          ((items ++ [a]).map key).idxOf k < ((items ++ [a]).map key).idxOf l := by
        refine ih.imp_of_mem fun hk hl lt => ?_
        rwa [early hk, early hl]
      rw [ofItems_concat, keys_put]
      split
      · exact before
      · next new =>
          refine List.pairwise_append.mpr
            ⟨before, List.pairwise_singleton .., fun k mem l last => ?_⟩
          rw [List.mem_singleton.mp last, early mem, List.map_append,
            List.idxOf_append_of_notMem fun mem => new (mem_keys_ofItems_iff.mpr mem)]
          exact Nat.lt_add_right _ (List.idxOf_lt_length_of_mem (mem_keys_ofItems_iff.mp mem))

theorem nodup_keys_ofItems : (ofItems key items).keys.Nodup :=
  pairwise_keys_ofItems.imp fun lt same => absurd (same ▸ lt) (Nat.lt_irrefl _)

/-- The table holds the last item of each key. -/
theorem mem_ofItems_iff {p : String × α} :
    p ∈ ofItems key items ↔ p.1 = key p.2 ∧ IsLast key items p.2 := by
  induction items using List.reverseRecOn with
  | nil =>
      refine ⟨nofun, ?_⟩
      rintro ⟨_, before, after, e, _⟩
      simp at e
  | append_singleton items a ih =>
      rw [ofItems_concat, mem_put_iff nodup_keys_ofItems, ih, isLast_concat_iff]
      constructor
      · rintro (rfl | ⟨⟨keyed, last⟩, other⟩)
        · exact ⟨rfl, .inl rfl⟩
        · exact ⟨keyed, .inr ⟨last, keyed ▸ other⟩⟩
      · rintro ⟨keyed, same | ⟨last, other⟩⟩
        · exact .inl (Prod.ext (keyed.trans (congrArg key same)) same)
        · exact .inr ⟨⟨keyed, last⟩, keyed.trans_ne other⟩

theorem get?_ofItems {a : α} (last : IsLast key items a) :
    (ofItems key items).get? (.chars (key a)) = some a :=
  (get?_eq_some_iff nodup_keys_ofItems).mpr (mem_ofItems_iff.mpr ⟨rfl, last⟩)

theorem get?_ofItems_eq_none {name : WireText} (absent : ∀ a ∈ items, name ≠ .chars (key a)) :
    (ofItems key items).get? name = none := by
  refine get?_eq_none_iff.mpr fun p mem => ?_
  obtain ⟨keyed, before, after, e, _⟩ := mem_ofItems_iff.mp mem
  rw [keyed]
  exact absent p.2 (by rw [e]; simp)

/-- Items of different keys are all in the table. -/
theorem ofItems_of_nodup (once : (items.map key).Nodup) :
    ofItems key items = items.map fun a => (key a, a) := by
  induction items using List.reverseRecOn with
  | nil => rfl
  | append_singleton items a ih =>
      rw [List.map_append, List.nodup_append] at once
      have new : key a ∉ (ofItems key items).keys := fun mem =>
        once.2.2 _ (mem_keys_ofItems_iff.mp mem) _ List.mem_cons_self rfl
      rw [ofItems_concat, put_of_not_mem new, ih once.1, List.map_append]
      rfl

theorem lasts_ofItems : Lasts key items ((ofItems key items).map Prod.snd) := by
  have keyed : ((ofItems key items).map Prod.snd).map key = (ofItems key items).keys := by
    rw [List.map_map, keys]
    exact List.map_congr_left fun p mem => (mem_ofItems_iff.mp mem).1.symm
  refine ⟨fun a mem => ?_, fun k => ?_, ?_⟩
  · obtain ⟨p, inside, rfl⟩ := List.mem_map.mp mem
    exact (mem_ofItems_iff.mp inside).2
  · rw [keyed, mem_keys_ofItems_iff]
  · rw [keyed]
    exact pairwise_keys_ofItems

end

end Table

/-! ## The registry after registrations -/

/-- The tools that are registered, in their order. -/
def toolsOf (rs : List Registration) : List ToolEntry :=
  rs.filterMap fun
    | .tool t => some t
    | .resource _ => none

/-- The resources that are registered, in their order. -/
def resourcesOf (rs : List Registration) : List ResourceEntry :=
  rs.filterMap fun
    | .tool _ => none
    | .resource r => some r

/-- The summaries that tools have, by the names of the tools. -/
def summariesOf (tools : List ToolEntry) : List (String × (Json → String)) :=
  tools.filterMap fun t => t.summary.map fun summary => (t.name, summary)

namespace Registry

open Table

/-- The registry after tools and resources. -/
def of (tools : List ToolEntry) (resources : List ResourceEntry) : Registry where
  handlers := (ofItems ToolEntry.name tools).mapValues ToolEntry.handler
  toolCards := (ofItems ToolEntry.name tools).mapValues ToolEntry.card
  signatures := (ofItems ToolEntry.name tools).mapValues ToolEntry.signature
  summaries := (ofItems Prod.fst (summariesOf tools)).mapValues Prod.snd
  readers := (ofItems ResourceEntry.uri resources).mapValues ResourceEntry.reader
  resourceCards := (ofItems ResourceEntry.uri resources).mapValues ResourceEntry.card

variable {tools : List ToolEntry} {resources : List ResourceEntry}

theorem summaries_setTool (t : ToolEntry) :
    ((of tools resources).setTool t).summaries = (of (tools ++ [t]) resources).summaries := by
  simp only [setTool, of]
  cases has : t.summary with
  | none => simp [summariesOf, has]
  | some summary =>
      rw [show summariesOf (tools ++ [t]) = summariesOf tools ++ [(t.name, summary)] by
        simp [summariesOf, has], ofItems_concat, ← Keyed.put_mapValues]

theorem setTool_of (t : ToolEntry) :
    (of tools resources).setTool t = of (tools ++ [t]) resources := by
  have summaries := @summaries_setTool tools resources t
  simp only [setTool, of, ofItems_concat, Keyed.put_mapValues] at summaries ⊢
  rw [summaries]

theorem setResource_of (r : ResourceEntry) :
    (of tools resources).setResource r = of tools (resources ++ [r]) := by
  simp only [setResource, of, ofItems_concat, Keyed.put_mapValues]

/-- Registrations write a line each, and the registry is that of all tools and all
resources. -/
theorem registerAll_of (rs : List Registration) :
    (of tools resources).registerAll rs = ⟨rs.map fun r => .noted r.notice,
      .ok (of (tools ++ toolsOf rs) (resources ++ resourcesOf rs))⟩ := by
  induction rs generalizing tools resources with
  | nil => simp [registerAll, toolsOf, resourcesOf, pure, Run.done]
  | cons r rs ih =>
      have set : ∃ tools' resources', (of tools resources).set r = of tools' resources' ∧
          tools' ++ toolsOf rs = tools ++ toolsOf (r :: rs) ∧
          resources' ++ resourcesOf rs = resources ++ resourcesOf (r :: rs) := by
        cases r with
        | tool t => exact ⟨tools ++ [t], resources, setTool_of t, by simp [toolsOf], rfl⟩
        | resource r =>
            exact ⟨tools, resources ++ [r], setResource_of r, rfl, by simp [resourcesOf]⟩
      obtain ⟨tools', resources', same, ht, hr⟩ := set
      have registered : ((of tools resources).register r).outcome = .ok (of tools' resources') := by
        rw [← same]
        rfl
      rw [registerAll, Run.bind_of_ok registered, ih, ht, hr]
      rfl

theorem registerAll_empty (rs : List Registration) :
    empty.registerAll rs = ⟨rs.map fun r => .noted r.notice,
      .ok (of (toolsOf rs) (resourcesOf rs))⟩ :=
  @registerAll_of [] [] rs

/-! ## What the registry answers -/

theorem toolDocument_of : (of tools resources).toolDocument =
    .arr (((ofItems ToolEntry.name tools).map Prod.snd).map ToolEntry.document) := by
  simp only [toolDocument, of, Keyed.mapValues, List.map_map]
  rfl

theorem resourceDocument_of : (of tools resources).resourceDocument =
    .arr (((ofItems ResourceEntry.uri resources).map Prod.snd).map ResourceEntry.document) := by
  simp only [resourceDocument, of, Keyed.mapValues, List.map_map]
  rfl

/-- A tool is run as it was last registered. -/
theorem execute_of {t : ToolEntry} (last : IsLast ToolEntry.name tools t)
    (arguments : Json.Fields) : (of tools resources).execute t.name arguments =
      Run.ofChecked (t.signature.check arguments) >>= t.handler := by
  have found := get?_ofItems last
  have called : (of tools resources).execute t.name arguments = (do
      let signature ← Run.done t.signature
      let given ← Run.ofChecked (signature.check arguments)
      let handler ← Run.done t.handler
      handler given) := by
    simp only [execute, of, entry, get?_mapValues, found, Option.map_some]
  rw [called, Run.bind_of_ok rfl]
  cases t.signature.check arguments <;> rfl

theorem execute_of_absent {name : WireText} (absent : ∀ t ∈ tools, name ≠ .chars t.name)
    (arguments : Json.Fields) :
    (of tools resources).execute name arguments = .fail (toolNotFound name) := by
  simp only [execute, of, get?_mapValues, get?_ofItems_eq_none absent, Option.map_none]

/-- A resource is read as it was last registered. -/
theorem readResource_of {r : ResourceEntry} (last : IsLast ResourceEntry.uri resources r) :
    (of tools resources).readResource r.uri = r.reader >>= fun document => do
      let text ← Run.ofExcept (dumped document)
      return resourceResult r.uri mimeType text := by
  have found := get?_ofItems last
  have read : (of tools resources).readResource r.uri = r.reader >>= fun document => do
      let card ← Run.done r.card
      let text ← Run.ofExcept (dumped document)
      return resourceResult r.uri card.mimeType text := by
    simp only [readResource, of, entry, get?_mapValues, found, Option.map_some]
  rw [read]
  refine congrArg _ (funext fun document => ?_)
  rw [Run.bind_of_ok rfl]
  rfl

theorem readResource_of_absent {uri : WireText} (absent : ∀ r ∈ resources, uri ≠ .chars r.uri) :
    (of tools resources).readResource uri = .fail (resourceNotFound uri) := by
  simp only [readResource, of, get?_mapValues, get?_ofItems_eq_none absent, Option.map_none]

/-- The registry stands for the last registration of each key. -/
structure StandsFor (g : Registry) (tools : List ToolEntry) (resources : List ResourceEntry) :
    Prop where
  /-- No table lacks a key that another one of its kind has. -/
  aligned : g.toolCards.keys = g.handlers.keys ∧ g.signatures.keys = g.handlers.keys ∧
    g.resourceCards.keys = g.readers.keys
  toolList : ∃ last, Lasts ToolEntry.name tools last ∧
    g.toolDocument = .arr (last.map ToolEntry.document)
  resourceList : ∃ last, Lasts ResourceEntry.uri resources last ∧
    g.resourceDocument = .arr (last.map ResourceEntry.document)
  tool : ∀ t, IsLast ToolEntry.name tools t → ∀ arguments,
    g.execute t.name arguments = Run.ofChecked (t.signature.check arguments) >>= t.handler
  noTool : ∀ name : WireText, (∀ t ∈ tools, name ≠ .chars t.name) → ∀ arguments,
    g.execute name arguments = .fail (toolNotFound name)
  resource : ∀ r, IsLast ResourceEntry.uri resources r →
    g.readResource r.uri = r.reader >>= fun document => do
      let text ← Run.ofExcept (dumped document)
      return resourceResult r.uri mimeType text
  noResource : ∀ uri : WireText, (∀ r ∈ resources, uri ≠ .chars r.uri) →
    g.readResource uri = .fail (resourceNotFound uri)

theorem standsFor_of (tools : List ToolEntry) (resources : List ResourceEntry) :
    (of tools resources).StandsFor tools resources where
  aligned := by simp only [of, Keyed.keys_mapValues, and_self]
  toolList := ⟨_, lasts_ofItems, toolDocument_of⟩
  resourceList := ⟨_, lasts_ofItems, resourceDocument_of⟩
  tool _ last := execute_of last
  noTool _ absent := execute_of_absent absent
  resource _ last := readResource_of last
  noResource _ absent := readResource_of_absent absent

/-- Registrations always succeed.  The registry after them stands for the last one of each
key, and neither kind of registration matters to the other. -/
theorem registerAll_standsFor (rs : List Registration) :
    ∃ g, empty.registerAll rs = ⟨rs.map fun r => .noted r.notice, .ok g⟩ ∧
      g.StandsFor (toolsOf rs) (resourcesOf rs) ∧
      ∀ rs' g', (empty.registerAll rs').outcome = .ok g' →
        (toolsOf rs' = toolsOf rs → g'.toolDocument = g.toolDocument ∧
          ∀ name arguments, g'.execute name arguments = g.execute name arguments ∧
            g'.callTool name arguments = g.callTool name arguments) ∧
        (resourcesOf rs' = resourcesOf rs → g'.resourceDocument = g.resourceDocument ∧
          ∀ uri, g'.readResource uri = g.readResource uri) := by
  refine ⟨_, registerAll_empty rs, standsFor_of _ _, fun rs' g' registered => ?_⟩
  rw [registerAll_empty] at registered
  cases registered
  refine ⟨fun same => ?_, fun same => ?_⟩
  · rw [same]
    exact ⟨rfl, fun _ _ => ⟨rfl, rfl⟩⟩
  · rw [same]
    exact ⟨rfl, fun _ => rfl⟩

/-- A tool without arguments that always gives the same. -/
def constantTool (name : String) (value : Json) : ToolEntry :=
  ⟨name, "", .obj [], .obj [], [], fun _ => .done value, none⟩

/-- A tool that is registered twice, with a resource of the same key and another tool in
between. -/
def twiceRegistered : List Registration :=
  [.tool (constantTool "a" (.int 1)), .resource ⟨"a", "", "", .done .null⟩,
   .tool (constantTool "b" .null), .tool (constantTool "a" (.int 2))]

/-- The tool is run as it was registered later, with or without the resource. -/
theorem registerAll_standsFor_twiceRegistered :
    ∃ g g', (empty.registerAll twiceRegistered).outcome = .ok g ∧
      (empty.registerAll ((toolsOf twiceRegistered).map .tool)).outcome = .ok g' ∧
      toolsOf ((toolsOf twiceRegistered).map .tool) = toolsOf twiceRegistered ∧
      (g.execute "a" [] = Run.ofChecked (Signature.check [] []) >>= fun _ => .done (.int 2)) ∧
      g'.execute "a" [] = g.execute "a" [] := by
  obtain ⟨g, registered, stands, apart⟩ := registerAll_standsFor twiceRegistered
  have ends : (empty.registerAll twiceRegistered).outcome = .ok g := by rw [registered]
  have again : IsLast ToolEntry.name (toolsOf twiceRegistered) (constantTool "a" (.int 2)) :=
    ⟨[constantTool "a" (.int 1), constantTool "b" .null], [], rfl, nofun⟩
  have alone := (apart ((toolsOf twiceRegistered).map .tool) _ rfl).1 rfl
  exact ⟨g, _, ends, rfl, rfl, stands.tool _ again [], (alone.2 "a" []).1⟩

/-! ## Catalogs -/

theorem mem_summariesOf_iff {name : String} {summary : Json → String} :
    (name, summary) ∈ summariesOf tools ↔
      ∃ t ∈ tools, t.name = name ∧ t.summary = some summary := by
  simp only [summariesOf, List.mem_filterMap, Option.map_eq_some_iff, Prod.mk.injEq]
  constructor
  · rintro ⟨t, mem, _, has, rfl, rfl⟩
    exact ⟨t, mem, rfl, has⟩
  · rintro ⟨t, mem, rfl, has⟩
    exact ⟨t, mem, summary, has, rfl, rfl⟩

/-- When no name is registered twice, summaries are looked up as tools are. -/
theorem summaries_of_nodup (once : (tools.map ToolEntry.name).Nodup) (name : WireText) :
    (of tools resources).summaries.get? name =
      (tools.find? fun t => name == .chars t.name).bind ToolEntry.summary := by
  have single : ((summariesOf tools).map Prod.fst).Nodup := by
    have keys : (summariesOf tools).map Prod.fst =
        (tools.filter fun t => t.summary.isSome).map ToolEntry.name := by
      clear once
      induction tools with
      | nil => rfl
      | cons t tools ih => cases has : t.summary <;> simpa [summariesOf, has] using ih
    exact keys ▸ once.sublist (List.filter_sublist.map _)
  simp only [of, get?_mapValues]
  cases found : tools.find? fun t => name == .chars t.name with
  | none =>
      rw [get?_ofItems_eq_none]
      · rfl
      · intro p mem same
        obtain ⟨t, here, named, _⟩ := mem_summariesOf_iff.mp mem
        rw [List.find?_eq_none] at found
        exact found t here (by rw [named, same, beq_self_eq_true])
  | some t =>
      have here := List.mem_of_find?_eq_some found
      obtain rfl : name = .chars t.name := by simpa using List.find?_some found
      cases has : t.summary with
      | none =>
          rw [get?_ofItems_eq_none, Option.bind_some, has]
          · rfl
          · intro p mem same
            obtain ⟨t', here', named, has'⟩ := mem_summariesOf_iff.mp mem
            obtain rfl : t' = t := List.inj_on_of_nodup_map once here' here
              (named.trans (WireText.chars.inj same).symm)
            rw [has] at has'
            cases has'
      | some summary =>
          have mem := mem_summariesOf_iff.mpr ⟨t, here, rfl, has⟩
          rw [get?_ofItems (isLast_of_mem single mem), Option.bind_some, has]
          rfl

end Registry

/-! ### What a catalog answers -/

namespace Catalog

open Table

variable {c : Catalog}

theorem execute_eq (names : (c.tools.map ToolEntry.name).Nodup) :
    (Registry.of c.tools c.resources).execute = c.execute := by
  funext name arguments
  rw [execute, tool?]
  cases found : c.tools.find? fun t => name == .chars t.name with
  | none =>
      rw [List.find?_eq_none] at found
      exact Registry.execute_of_absent (fun t mem same => found t mem (beq_iff_eq.mpr same)) _
  | some t =>
      obtain rfl : name = .chars t.name := by simpa using List.find?_some found
      exact Registry.execute_of (isLast_of_mem names (List.mem_of_find?_eq_some found)) _

theorem readResource_eq (uris : (c.resources.map ResourceEntry.uri).Nodup) :
    (Registry.of c.tools c.resources).readResource = c.readResource := by
  funext uri
  rw [readResource, resource?]
  cases found : c.resources.find? fun r => uri == .chars r.uri with
  | none =>
      rw [List.find?_eq_none] at found
      exact Registry.readResource_of_absent fun r mem same => found r mem (beq_iff_eq.mpr same)
  | some r =>
      obtain rfl : uri = .chars r.uri := by simpa using List.find?_some found
      exact Registry.readResource_of (isLast_of_mem uris (List.mem_of_find?_eq_some found))

theorem callTool_eq (names : (c.tools.map ToolEntry.name).Nodup) :
    (Registry.of c.tools c.resources).callTool = c.callTool := by
  funext name arguments
  rw [Registry.callTool, callTool, execute_eq names, Registry.summaries_of_nodup names, tool?]

/-- A catalog of different names and addresses answers as the registry does when all of
it is registered. -/
theorem registered (names : (c.tools.map ToolEntry.name).Nodup)
    (uris : (c.resources.map ResourceEntry.uri).Nodup) :
    ∃ g, (Registry.empty.registerAll (c.tools.map .tool ++ c.resources.map .resource)).outcome =
        .ok g ∧ g.toolDocument = c.toolDocument ∧ g.resourceDocument = c.resourceDocument ∧
      g.execute = c.execute ∧ g.callTool = c.callTool ∧ g.readResource = c.readResource := by
  have tools : toolsOf (c.tools.map .tool ++ c.resources.map .resource) = c.tools := by
    simp [toolsOf, List.filterMap_map]
  have resources : resourcesOf (c.tools.map .tool ++ c.resources.map .resource) = c.resources := by
    simp [resourcesOf, List.filterMap_map]
  have after := Registry.registerAll_empty (c.tools.map .tool ++ c.resources.map .resource)
  rw [tools, resources] at after
  refine ⟨_, congrArg Run.outcome after, ?_, ?_, execute_eq names, callTool_eq names,
    readResource_eq uris⟩
  · rw [Registry.toolDocument_of, ofItems_of_nodup names, List.map_map, List.map_map]
    rfl
  · rw [Registry.resourceDocument_of, ofItems_of_nodup uris, List.map_map, List.map_map]
    rfl

end Catalog

end HostMonitor.Tool

namespace HostMonitor.Gateway

open Query Time Tool

/-- What the gateway offers is what its registry offers. -/
theorem catalog_registered (s : Sources) (now : Instant) :
    ∃ g, (Registry.empty.registerAll ((catalog s now).tools.map .tool ++
        (catalog s now).resources.map .resource)).outcome = .ok g ∧
      g.toolDocument = (catalog s now).toolDocument ∧
      g.resourceDocument = (catalog s now).resourceDocument ∧
      g.execute = (catalog s now).execute ∧ g.callTool = (catalog s now).callTool ∧
      g.readResource = (catalog s now).readResource :=
  Catalog.registered (by simp [catalog, servicesTool, logsTool])
    (by simp [catalog, snapshotResource, failedResource, recentResource])

end HostMonitor.Gateway

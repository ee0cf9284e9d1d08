import HostMonitor.Proofs.Ranks
import HostMonitor.Query.Services

/-!
# Selecting services

What a list of services holds is said of the units of the source and of the arguments
as they were given, without the filters and the sorts that make it.

`ServicesRequest.Asks` says of a unit that both arguments admit it.  A
`ServiceRanking` lists each unit that is asked for once, with its place in what the
source gave: by name, and by place where names are equal.  A list of failed units is
sorted with failed units first, which changes nothing, as there are no others in it.

`listServices_exact` says that the list is the start of the ranking and that its counts
and its mark of completeness are those of the ranking.  A greater limit only adds to the
end of a list.
-/

namespace HostMonitor.Query

open Service Text Time

/-! ## What a request asks for -/

/-- Both arguments of the request admit the unit. -/
structure ServicesRequest.Asks (r : ServicesRequest) (u : ServiceUnit) : Prop where
  /-- The active state is the one asked for, whatever the case of its letters. -/
  inState : ∀ state, serviceState r.state = .ok (some state) → lower u.activeState = state
  /-- The name holds the fragment without the blanks around it.  Every name holds
  nothing, so a blank fragment asks for nothing. -/
  named : ∀ given, r.nameContains = some given →
    ∃ fragment, given = .chars fragment ∧ trim fragment.toList <:+: u.name.toList

/-- The normal form of a request is that of its arguments, one by one. -/
theorem ServicesRequest.query_eq_ok_iff {r : ServicesRequest} {q : ServicesQuery} :
    r.query = .ok q ↔ serviceState r.state = .ok q.state ∧
      nameFragment r.nameContains = q.fragment ∧
      Query.limit r.limit standardServices mostServices = .ok q.limit := by
  simp only [query, bind_eq_ok]
  constructor
  · rintro ⟨state, hs, limit, hl, hq⟩
    cases hq
    exact ⟨hs, rfl, hl⟩
  · rintro ⟨hs, hn, hl⟩
    exact ⟨_, hs, _, hl, by rw [hn]; rfl⟩

theorem admitsName_iff {given : Option WireText} {name : String} :
    (∀ fragment, nameFragment given = some fragment → holdsFragment name fragment = true) ↔
      ∀ text, given = some text →
        ∃ fragment, text = .chars fragment ∧ trim fragment.toList <:+: name.toList := by
  cases given with
  | none => simp [nameFragment]
  | some text =>
      cases text with
      | broken points => simp [nameFragment, holdsFragment]
      | chars s =>
          cases filled : blank s with
          | true => simp [nameFragment, filled, trim_of_all_blank filled]
          | false => simp [nameFragment, filled, holdsFragment, holds, occursIn_iff, toList_strip]

theorem ServicesQuery.selects_eq_true_iff (q : ServicesQuery) (u : ServiceUnit) :
    q.selects u = true ↔ (∀ state, q.state = some state → lower u.activeState = state) ∧
      ∀ fragment, q.fragment = some fragment → holdsFragment u.name fragment = true := by
  cases hs : q.state with
  | none => cases hn : q.fragment <;> simp [selects, hs, hn]
  | some state => cases hn : q.fragment <;> simp [selects, hs, hn]

/-- The tests of the normal form are what the request asks for. -/
theorem ServicesQuery.selects_iff {r : ServicesRequest} {q : ServicesQuery}
    (h : r.query = .ok q) (u : ServiceUnit) : q.selects u = true ↔ r.Asks u := by
  obtain ⟨hs, hn, -⟩ := ServicesRequest.query_eq_ok_iff.mp h
  have inState : (∀ state, q.state = some state → lower u.activeState = state) ↔
      ∀ state, serviceState r.state = .ok (some state) → lower u.activeState = state := by
    simp [hs]
  rw [selects_eq_true_iff, inState, ← hn, admitsName_iff]
  exact ⟨fun both => ⟨both.1, both.2⟩, fun asks => ⟨asks.inState, asks.named⟩⟩

/-! ## The order of units -/

/-- Among failed units it does not matter that failed units come first. -/
theorem failedFirst_of_failed {a b : ServiceUnit} (ha : hasFailed a = true)
    (hb : hasFailed b = true) : failedFirst a b = nameLE a b := by
  simp [failedFirst, ha, hb]

/-- The units that a query selects are put in the order of their names, in whatever state
they are asked for. -/
theorem ServicesQuery.mergeSort_before (q : ServicesQuery) (units : List ServiceUnit) :
    (units.filter q.selects).mergeSort q.before = (units.filter q.selects).mergeSort nameLE := by
  have same : ∀ a ∈ units.filter q.selects, ∀ b ∈ units.filter q.selects,
      q.before a b = nameLE a b := by
    intro a ha b hb
    cases failed : q.state == some "failed" with
    | false => simp [before, failed]
    | true =>
        have each : ∀ u ∈ units.filter q.selects, hasFailed u = true := by
          intro u hu
          have chosen := (List.mem_filter.mp hu).2
          rw [selects, eq_of_beq failed, Bool.and_eq_true] at chosen
          exact chosen.1
        simp [before, failed, failedFirst_of_failed (each a ha) (each b hb)]
  simpa using List.map_mergeSort (f := id) same

/-- The first unit comes before the second: by name, and by place under one name. -/
def NamedBefore (x y : ServiceUnit × Nat) : Prop :=
  x.1.name < y.1.name ∨ x.1.name = y.1.name ∧ x.2 < y.2

theorem namedBefore_of_nameLE {x y : ServiceUnit × Nat} (le : nameLE x.1 y.1 = true)
    (tie : nameLE y.1 x.1 = true → x.2 < y.2) : NamedBefore x y := by
  rw [nameLE_iff] at le tie
  by_cases back : y.1.name ≤ x.1.name
  · exact .inr ⟨String.le_antisymm le back, tie back⟩
  · exact .inl (String.not_le.mp back)

/-- The units that a request asks for, in the order of its list. -/
structure ServiceRanking (r : ServicesRequest) (units : List ServiceUnit)
    (ranked : List (ServiceUnit × Nat)) : Prop where
  /-- They are the units of the source that the request asks for. -/
  mem_iff : ∀ u place, (u, place) ∈ ranked ↔ units[place]? = some u ∧ r.Asks u
  /-- No unit is used twice. -/
  once : (ranked.map Prod.snd).Nodup
  /-- Each unit comes before all that follow. -/
  ordered : ranked.Pairwise NamedBefore

theorem ServicesQuery.ranking {r : ServicesRequest} {q : ServicesQuery} (h : r.query = .ok q)
    (units : List ServiceUnit) : ServiceRanking r units (rankedBy q.selects nameLE units) where
  mem_iff := by
    intro u place
    rw [mem_rankedBy_iff, selects_iff h]
  once := nodup_rankedBy
  ordered := (pairwise_rankedBy nameLE_trans nameLE_total).imp fun hxy =>
    namedBefore_of_nameLE hxy.1 hxy.2

/-! ## The list -/

/-- A list is the page of its query, and fails as the source does. -/
theorem outcome_listServices_eq (s : Sources) (now : Instant) {r : ServicesRequest}
    {q : ServicesQuery} (accepted : r.query = .ok q) :
    (listServices s now r).outcome = s.units.outcome.map (q.page now) := by
  have asked : s.askUnits.outcome = s.units.outcome := by
    rw [Sources.askUnits, Run.outcome_bind_of_ok (Run.outcome_cause _)]
  rw [listServices, accepted]
  cases answer : s.units.outcome with
  | ok units => rw [Run.outcome_bind_of_ok rfl, Run.outcome_bind_of_ok (asked.trans answer)]; rfl
  | error f =>
      rw [Run.outcome_bind_of_ok rfl, Run.outcome_bind_of_error (asked.trans answer)]
      rfl

theorem ServicesQuery.page_eq (q : ServicesQuery) (now : Instant) (units : List ServiceUnit) :
    q.page now units = ⟨((rankedBy q.selects nameLE units).take q.limit.toNat).map Prod.fst,
      (rankedBy q.selects nameLE units).length, now⟩ := by
  rw [List.map_take, map_fst_rankedBy, ← q.mergeSort_before units, page, ServicesPage.mk.injEq]
  refine ⟨rfl, ?_, rfl⟩
  rw [q.mergeSort_before units, ← map_fst_rankedBy, List.length_map]

theorem outcome_listServices {s : Sources} {r : ServicesRequest} {q : ServicesQuery}
    {units : List ServiceUnit} {most : Nat} (accepted : r.query = .ok q)
    (asked : s.units.outcome = .ok units) (limit : q.limit = most) (now : Instant) :
    (listServices s now r).outcome =
      .ok ⟨((rankedBy q.selects nameLE units).take most).map Prod.fst,
        (rankedBy q.selects nameLE units).length, now⟩ := by
  rw [outcome_listServices_eq s now accepted, asked, ← Int.toNat_natCast most, ← limit,
    ← q.page_eq now units]
  rfl

/-- A list of services is the start of the ranking of the units that the source gave, with
true counts, and it is marked when units of the ranking are missing from it.  In whatever
state units are asked for, they are sorted by their names alone.  With a greater limit,
and at another time, the list goes on after the same start, with the same total. -/
theorem listServices_exact {s : Sources} {now : Instant} {r : ServicesRequest} {q : ServicesQuery}
    {units : List ServiceUnit} (accepted : r.query = .ok q)
    (asked : s.units.outcome = .ok units) :
    ∃ (page : ServicesPage) (most : Nat) (ranked : List (ServiceUnit × Nat)),
      (listServices s now r).outcome = .ok page ∧
      Query.limit r.limit standardServices mostServices = .ok (most : Int) ∧
      ServiceRanking r units ranked ∧
      page.services = (ranked.take most).map Prod.fst ∧
      page.total = ranked.length ∧ page.returned = min most ranked.length ∧
      (page.truncated = true ↔ ranked.length > most) ∧ page.generatedAt = now ∧
      ranked.map Prod.fst = (units.filter q.selects).mergeSort nameLE ∧
      ∀ (r' : ServicesRequest) (now' : Instant) (more : Nat),
        r'.state = r.state → r'.nameContains = r.nameContains →
        Query.limit r'.limit standardServices mostServices = .ok (more : Int) → most ≤ more →
        ∃ page', (listServices s now' r').outcome = .ok page' ∧
          page.services <+: page'.services ∧ page'.total = page.total := by
  obtain ⟨hs, hn, hl⟩ := ServicesRequest.query_eq_ok_iff.mp accepted
  have bounds := limit_bounds hl (by decide) (by decide)
  obtain ⟨most, same⟩ := Int.eq_ofNat_of_zero_le (by omega : 0 ≤ q.limit)
  refine ⟨_, most, rankedBy q.selects nameLE units, outcome_listServices accepted asked same now,
    same ▸ hl, q.ranking accepted units, rfl, rfl, ?_, ?_, rfl, map_fst_rankedBy, ?_⟩
  · rw [ServicesPage.returned, List.length_map, List.length_take]
  · simp only [ServicesPage.truncated, ServicesPage.returned, List.length_map, List.length_take,
      decide_eq_true_eq]
    omega
  · intro r' now' more state fragment limit less
    have accepted' : r'.query = .ok ⟨q.state, q.fragment, more⟩ :=
      ServicesRequest.query_eq_ok_iff.mpr ⟨state ▸ hs, fragment ▸ hn, limit⟩
    exact ⟨_, outcome_listServices accepted' asked rfl now',
      (List.take_prefix_take_left less).map _, rfl⟩

/-- Four units, two of one name, and one that has not failed. -/
def fourUnits : List ServiceUnit :=
  [unit "b.service" "first" "failed", unit "a.service" "" "FAILED",
   unit "b.service" "second" "failed", unit "c.service" "" "active"]
where
  unit (name description state : String) : ServiceUnit :=
    ⟨name, description, "loaded", state, state, none, none, none, none, none⟩

/-- Two of the three failed units: the one that is named first, and of two of one name the
one that the source gave first. -/
theorem listServices_exact_four_units :
    ∃ page : ServicesPage,
      (listServices ⟨.done fourUnits, fun _ _ _ => .done [], none, fun _ => none⟩ ⟨0⟩
        ⟨some " Failed", some "service ", .int 2⟩).outcome = .ok page ∧
      page.services.map ServiceUnit.description = ["", "first"] ∧ page.total = 3 ∧
      page.truncated = true := by
  have accepted : (⟨some " Failed", some "service ", .int 2⟩ : ServicesRequest).query =
      .ok ⟨some "failed", some "service", 2⟩ := rfl
  have failed : fourUnits.filter (ServicesQuery.selects ⟨some "failed", some "service", 2⟩) =
      fourUnits.take 3 := rfl
  obtain ⟨page, most, ranked, listed, limit, -, services, total, -, marked, -, sorted, -⟩ :=
    @listServices_exact ⟨.done fourUnits, fun _ _ _ => .done [], none, fun _ => none⟩ ⟨0⟩ _ _
      fourUnits accepted rfl
  cases limit
  have ranking : ranked.map Prod.fst =
      [fourUnits.unit "a.service" "" "FAILED", fourUnits.unit "b.service" "first" "failed",
       fourUnits.unit "b.service" "second" "failed"] := by
    rw [sorted, failed]
    have ahead : nameLE (fourUnits.unit "b.service" "first" "failed")
        (fourUnits.unit "a.service" "" "FAILED") = false := by decide
    have equal : nameLE (fourUnits.unit "b.service" "first" "failed")
        (fourUnits.unit "b.service" "second" "failed") = true := by decide
    have last : nameLE (fourUnits.unit "a.service" "" "FAILED")
        (fourUnits.unit "b.service" "second" "failed") = true := by decide
    simp [fourUnits, List.mergeSort, ahead, equal, last]
  have three : ranked.length = 3 := by
    rw [← List.length_map (f := Prod.fst), ranking]
    rfl
  refine ⟨page, listed, ?_, total.trans three, marked.mpr (by rw [three]; decide)⟩
  rw [services, List.map_take, ranking]
  rfl

end HostMonitor.Query

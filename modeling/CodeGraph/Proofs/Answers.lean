import CodeGraph.Proofs.Reexport

/-!
# The rules of the search through re-exports

The search as a set of rules: what becomes of a list of places, asked one after the other at some
depth. No rule bounds the length of a derivation, and import maps may lead in circles; still every
query has an answer, and only one, which is what the search computes. An induction over the rules
shows where an answer comes from: a chain of hops within the limit leads to it.

## Main definitions

* `Symbols.searchAll`: the search from several places one after the other.
* `Symbols.Answers`: the rules.
* `Place.Names`: a definition is what is looked for at a place.

## Main results

* `Symbols.answers_iff`: the rules and the search agree.
* `Symbols.Answers.exists_steps`: a chain of hops leads to every answer.
* `Symbols.lookup_reached`: every query has one answer, and a bounded chain leads to it.
-/

namespace CodeGraph

/-- A definition is what is looked for at a place. -/
def Place.Names (p : Place) (d : Definition) : Prop :=
  d.filePath = p.path ∧ d.kind.isCallable = true ∧ match p.wanted with
    | .named name => d.name = name ∧ d.parentClass = none
    | .default => d.isDefaultExport = true

namespace Symbols

variable {s : Symbols}

/-! ### Several places -/

/-- Search from several places one after the other, keeping what was visited. -/
def searchAll (s : Symbols) (hops : Nat) :
    List Visit → List Place → Option Definition × List Visit
  | visited, [] => (none, visited)
  | visited, p :: ps =>
    match s.search hops visited p.path p.wanted with
    | (some d, visited) => (some d, visited)
    | (none, visited) => searchAll s hops visited ps

section SearchAll

variable {hops : Nat} {visited after : List Visit} {p : Place} {ps : List Place} {d : Definition}

theorem searchAll_cons_of_some
    (h : s.search hops visited p.path p.wanted = (some d, after)) :
    s.searchAll hops visited (p :: ps) = (some d, after) := by
  rw [searchAll, h]

theorem searchAll_cons_of_none
    (h : s.search hops visited p.path p.wanted = (none, after)) :
    s.searchAll hops visited (p :: ps) = s.searchAll hops after ps := by
  rw [searchAll, h]

theorem searchAll_singleton (p : Place) :
    s.searchAll hops visited [p] = s.search hops visited p.path p.wanted := by
  cases h : s.search hops visited p.path p.wanted with
  | mk found after =>
    cases found with
    | some d => exact searchAll_cons_of_some h
    | none => exact searchAll_cons_of_none h

/-- Files under one name are searched like places. -/
theorem firstFound_eq_searchAll (e : Export) (paths : List String) :
    firstFound (fun v path => s.search hops v path e) visited paths =
      s.searchAll hops visited (paths.map (⟨·, e⟩)) := by
  induction paths generalizing visited with
  | nil => rfl
  | cons path paths ih =>
    rw [firstFound, List.map_cons, searchAll]
    cases s.search hops visited path e with
    | mk found after =>
      cases found with
      | some d => rfl
      | none => exact ih

/-- What a place itself holds is found there. -/
theorem search_of_held (h : p.visit ∉ visited) (hheld : s.held? p.path p.wanted = some d) :
    s.search hops visited p.path p.wanted = (some d, p.visit :: visited) := by
  cases hops with
  | zero => rw [search_zero h, hheld]
  | succ hops =>
    rw [search]
    refine (if_neg h).trans ?_
    simp only [hheld]
    rfl

/-- From a place that holds nothing the search moves on to the places one hop away. -/
theorem search_succ_of_none (h : p.visit ∉ visited) (hheld : s.held? p.path p.wanted = none) :
    s.search (hops + 1) visited p.path p.wanted =
      s.searchAll hops (p.visit :: visited) (s.next p) := by
  rw [search_succ h hheld, next]
  simp only [firstFound_eq_searchAll]
  cases hb : s.imports.binding? p.path p.wanted.key with
  | none => rfl
  | some b =>
    rw [Option.elim_some, Option.map_some, Option.toList_some, List.singleton_append]
    cases hbound : s.search hops (p.visit :: visited) b.targetFile b.export with
    | mk found after =>
      cases found with
      | some d => exact (searchAll_cons_of_some (p := ⟨b.targetFile, b.export⟩) hbound).symm
      | none => exact (searchAll_cons_of_none (p := ⟨b.targetFile, b.export⟩) hbound).symm

end SearchAll

/-! ### The rules -/

/--
What becomes of a list of places that are asked at a depth, with some visits made before: what is
found, and all visits after it. A place is skipped if it was visited, answers with what it holds,
and else passes the question on to the places one hop away, unless the depth has reached the limit.
-/
inductive Answers (s : Symbols) (limit : Nat) :
    Nat → List Visit → List Place → Option Definition → List Visit → Prop
  | nil {depth : Nat} {visited : List Visit} : Answers s limit depth visited [] none visited
  | visited {depth : Nat} {visited after : List Visit} {p : Place} {ps : List Place}
      {found : Option Definition} :
      p.visit ∈ visited → Answers s limit depth visited ps found after →
      Answers s limit depth visited (p :: ps) found after
  | held {depth : Nat} {visited : List Visit} {p : Place} {ps : List Place} {d : Definition} :
      p.visit ∉ visited → s.held? p.path p.wanted = some d →
      Answers s limit depth visited (p :: ps) (some d) (p.visit :: visited)
  | stop {depth : Nat} {visited after : List Visit} {p : Place} {ps : List Place}
      {found : Option Definition} :
      p.visit ∉ visited → s.held? p.path p.wanted = none → limit ≤ depth →
      Answers s limit depth (p.visit :: visited) ps found after →
      Answers s limit depth visited (p :: ps) found after
  | found {depth : Nat} {visited after : List Visit} {p : Place} {ps : List Place}
      {d : Definition} :
      p.visit ∉ visited → s.held? p.path p.wanted = none → depth < limit →
      Answers s limit (depth + 1) (p.visit :: visited) (s.next p) (some d) after →
      Answers s limit depth visited (p :: ps) (some d) after
  | missed {depth : Nat} {visited middle after : List Visit} {p : Place} {ps : List Place}
      {found : Option Definition} :
      p.visit ∉ visited → s.held? p.path p.wanted = none → depth < limit →
      Answers s limit (depth + 1) (p.visit :: visited) (s.next p) none middle →
      Answers s limit depth middle ps found after →
      Answers s limit depth visited (p :: ps) found after

section Rules

variable {limit depth : Nat} {visited after : List Visit} {ps : List Place}
variable {found : Option Definition}

/-- The search derives an answer: a derivation of its result is built along its recursion. -/
theorem answers_searchAll (s : Symbols) (limit : Nat) {hops : Nat} (hdepth : depth + hops = limit)
    (visited : List Visit) (ps : List Place) :
    s.Answers limit depth visited ps (s.searchAll hops visited ps).1
      (s.searchAll hops visited ps).2 := by
  -- the places are searched in turn with the same hops, and their way on with one hop less
  induction hops using Nat.strong_induction_on generalizing depth visited ps with
  | _ hops ihHops =>
    induction ps generalizing visited with
    | nil => exact .nil
    | cons p ps ih =>
      by_cases hseen : p.visit ∈ visited
      · rw [searchAll_cons_of_none (search_of_mem _ hseen)]
        exact .visited hseen (ih visited)
      cases hheld : s.held? p.path p.wanted with
      | some d =>
        rw [searchAll_cons_of_some (search_of_held hseen hheld)]
        exact .held hseen hheld
      | none =>
        cases hops with
        | zero =>
          rw [searchAll_cons_of_none ((search_zero hseen).trans (by rw [hheld]))]
          exact .stop hseen hheld (by omega) (ih _)
        | succ hops =>
          have hnext : s.Answers limit (depth + 1) (p.visit :: visited) (s.next p)
              (s.searchAll hops (p.visit :: visited) (s.next p)).1
              (s.searchAll hops (p.visit :: visited) (s.next p)).2 :=
            ihHops hops (Nat.lt_succ_self hops) (by omega) _ _
          have hsearch : s.search (hops + 1) visited p.path p.wanted =
              s.searchAll hops (p.visit :: visited) (s.next p) := search_succ_of_none hseen hheld
          cases hall : s.searchAll hops (p.visit :: visited) (s.next p) with
          | mk found middle =>
            rw [hall] at hnext hsearch
            cases found with
            | some d =>
              rw [searchAll_cons_of_some hsearch]
              exact .found hseen hheld (by omega) hnext
            | none =>
              rw [searchAll_cons_of_none hsearch]
              exact .missed hseen hheld (by omega) hnext (ih middle)

/-- Whatever the rules derive is what the search computes. -/
theorem Answers.searchAll_eq (h : s.Answers limit depth visited ps found after) :
    s.searchAll (limit - depth) visited ps = (found, after) := by
  induction h with
  | nil => rfl
  | visited hseen _ ih => rw [searchAll_cons_of_none (search_of_mem _ hseen), ih]
  | held hnew hheld => exact searchAll_cons_of_some (search_of_held hnew hheld)
  | stop hnew hheld hlimit _ ih =>
    rw [Nat.sub_eq_zero_of_le hlimit] at ih ⊢
    rw [searchAll_cons_of_none ((search_zero hnew).trans (by rw [hheld])), ih]
  | @found depth _ _ _ _ _ hnew hheld hlimit _ ih =>
    rw [show limit - depth = limit - (depth + 1) + 1 by omega]
    exact searchAll_cons_of_some ((search_succ_of_none hnew hheld).trans ih)
  | @missed depth _ _ _ _ _ _ hnew hheld hlimit _ _ ihNext ih =>
    rw [show limit - depth = limit - (depth + 1) + 1 by omega] at ih ⊢
    rw [searchAll_cons_of_none ((search_succ_of_none hnew hheld).trans ihNext), ih]

/-- The rules and the search agree, at every depth within the limit. -/
theorem answers_iff (hdepth : depth ≤ limit) :
    s.Answers limit depth visited ps found after ↔
      s.searchAll (limit - depth) visited ps = (found, after) := by
  refine ⟨Answers.searchAll_eq, fun h => ?_⟩
  have hsearch := answers_searchAll s limit (Nat.add_sub_of_le hdepth) visited ps
  rwa [h] at hsearch

/--
Every answer comes from a place that holds it, at the end of a chain of hops that uses no more than
what is left of the limit.
-/
theorem Answers.exists_steps {d : Definition}
    (h : s.Answers limit depth visited ps (some d) after) :
    ∃ p ∈ ps, ∃ n goal, n ≤ limit - depth ∧ Steps s.Hop n p goal ∧
      s.held? goal.path goal.wanted = some d := by
  generalize hfound : some d = found at h
  induction h with
  | nil => cases hfound
  | visited _ _ ih | stop _ _ _ _ ih | missed _ _ _ _ _ _ ih =>
    obtain ⟨p, hp, hchain⟩ := ih hfound
    exact ⟨p, List.mem_cons_of_mem _ hp, hchain⟩
  | @held _ _ p _ _ _ hheld =>
    exact ⟨p, List.mem_cons_self, 0, p, Nat.zero_le _, .refl p, hfound ▸ hheld⟩
  | @found _ _ _ p _ _ _ _ hlimit _ ih =>
    obtain ⟨q, hq, n, goal, hn, hsteps, hgoal⟩ := ih hfound
    exact ⟨p, List.mem_cons_self, n + 1, goal, by omega, .step (mem_next_iff.mp hq) hsteps, hgoal⟩

end Rules

/-! ### What a file holds -/

/-- What a file holds for an export is one of the definitions, and is what was looked for. -/
theorem names_of_held? {ds : List Definition} (hlists : s.registry.Lists ds) {p : Place}
    {d : Definition} (h : s.held? p.path p.wanted = some d) : d ∈ ds ∧ p.Names d := by
  obtain ⟨path, wanted⟩ := p
  cases wanted with
  | named name =>
    have hmem := List.mem_of_mem_head? h
    rw [List.mem_filter, callables, Sorting.mem_sort, List.mem_filter, hlists.namedIn,
      List.mem_filter] at hmem
    obtain ⟨⟨⟨hd, hplace⟩, hcallable⟩, htop⟩ := hmem
    obtain ⟨hpath, hname⟩ := of_decide_eq_true hplace
    exact ⟨hd, hpath, hcallable, hname, Option.isNone_iff_eq_none.mp htop⟩
  | default =>
    have hmem := List.mem_of_mem_head? h
    rw [List.mem_filter, hlists.inFile, List.mem_filter, Bool.and_eq_true] at hmem
    obtain ⟨⟨hd, hpath⟩, hdefault, hcallable⟩ := hmem
    exact ⟨hd, of_decide_eq_true hpath, hcallable, hdefault⟩

/-- A look-up is a search from one place. -/
theorem lookup_eq_searchAll (s : Symbols) (hops : Nat) (p : Place) :
    s.lookup hops p.path p.wanted = (s.searchAll hops [] [p]).1 := by
  rw [searchAll_singleton, lookup]

/--
Whatever arrived in the registry, whatever the import map and the limit, and whatever is looked for
in which file: the rules give one answer, with one record of visits, and the look-up gives that
answer. If it is a definition, then it is one of those that arrived, and a chain of hops within the
limit leads to a place where it is what is looked for.
-/
theorem lookup_reached (arrivals : List Registry.Arrival) (imports : ImportMap) (limit : Nat)
    (path : String) (e : Export) :
    let s : Symbols := ⟨arrivals.foldl Registry.receive Registry.empty, imports⟩
    (∃! answer : Option Definition × List Visit,
      s.Answers limit 0 [] [⟨path, e⟩] answer.1 answer.2) ∧
    (∀ found after, s.Answers limit 0 [] [⟨path, e⟩] found after →
      found = s.lookup limit path e) ∧
    ∀ d, s.lookup limit path e = some d → d ∈ arrivals.filterMap Registry.Arrival.definition? ∧
      ∃ n goal, n ≤ limit ∧ Steps s.Hop n ⟨path, e⟩ goal ∧ goal.Names d := by
  intro s
  have hlists : s.registry.Lists (arrivals.filterMap Registry.Arrival.definition?) :=
    Registry.Lists.empty.foldl_receive arrivals
  have hiff : ∀ found after, s.Answers limit 0 [] [⟨path, e⟩] found after ↔
      s.searchAll limit [] [⟨path, e⟩] = (found, after) :=
    fun _ _ => answers_iff (Nat.zero_le limit)
  have hlookup := lookup_eq_searchAll s limit ⟨path, e⟩
  refine ⟨⟨s.searchAll limit [] [⟨path, e⟩], (hiff _ _).mpr rfl, fun answer h => ?_⟩,
    fun found after h => ?_, fun d hd => ?_⟩
  · exact ((hiff _ _).mp h).symm
  · rw [hlookup, (hiff _ _).mp h]
  · have hanswers : s.Answers limit 0 [] [⟨path, e⟩] (some d)
        (s.searchAll limit [] [⟨path, e⟩]).2 :=
      (hiff _ _).mpr (Prod.ext (hlookup.symm.trans hd) rfl)
    obtain ⟨p, hp, n, goal, hn, hsteps, hgoal⟩ := hanswers.exists_steps
    obtain rfl := List.mem_singleton.mp hp
    obtain ⟨hmem, hnames⟩ := names_of_held? hlists hgoal
    exact ⟨hmem, n, goal, hn, hsteps, hnames⟩

end Symbols

end CodeGraph

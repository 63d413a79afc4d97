import CodeGraph.Proofs.Call

/-!
# How far the search through re-exports reaches

The search for what a file passes on takes a limited number of hops and visits each name of each
file once. The two limits get in each other's way: a place that is first visited at the end of a
long trail is not searched any further, and it is not visited again when a shorter chain leads
there. So a definition within reach is found, unless a place on the way to it is already used up.
Besides, a file's default and a definition of the name `default` count as the same visit.

## Main definitions

* `Place`, `Symbols.Hop`: what is looked for where, and one step of the search.
* `Symbols.Trail`: hops through places that hold nothing and are all visited under other names.
* `Symbols.Exhausted`: what a search that found nothing has visited.
* `Symbols.UsedUp`, `Symbols.Mistaken`: the two ways to miss the end of a chain.

## Main results

* `Symbols.exhausted_of_search`: the places behind the visits of a search that found nothing.
* `Symbols.isSome_lookup`: what ends a chain within reach is found, or the chain is interrupted.
* `Symbols.lookup_diamond`: a definition two hops away that a search of two hops misses.
-/

namespace CodeGraph

/-- What is looked for in a file. -/
structure Place where
  path : String
  wanted : Export
deriving DecidableEq, Repr, Inhabited

namespace Place

/-- What a place is visited under. -/
def visit (p : Place) : Visit :=
  (p.path, p.wanted.key)

/-- One place is the default of a file, and the other one the name `default` there. -/
def Twins (p q : Place) : Prop :=
  p.path = q.path ∧ (p.wanted = .default ∧ q.wanted = .named "default" ∨
    p.wanted = .named "default" ∧ q.wanted = .default)

/-- Different places under the same visit are twins. -/
theorem twins_of_visit_eq {p q : Place} (hne : p ≠ q) (h : p.visit = q.visit) : p.Twins q := by
  obtain ⟨path, wanted⟩ := p
  obtain ⟨path', wanted'⟩ := q
  obtain ⟨rfl, hkey⟩ := Prod.mk.inj h
  refine ⟨rfl, ?_⟩
  cases wanted with
  | named name =>
    cases wanted' with
    | named name' => exact absurd (congrArg (Place.mk path ∘ Export.named) hkey) hne
    | default => exact .inr ⟨congrArg Export.named hkey, rfl⟩
  | default =>
    cases wanted' with
    | named name' => exact .inl ⟨rfl, congrArg Export.named hkey.symm⟩
    | default => exact absurd rfl hne

end Place

namespace Symbols

variable {s : Symbols}

/-! ### Hops and trails -/

/-- One hop: to what the name is bound to, or to the same name of a file that is imported whole. -/
inductive Hop (s : Symbols) : Place → Place → Prop
  | binding {path : String} {e : Export} {b : ImportBinding} :
      s.imports.binding? path e.key = some b → Hop s ⟨path, e⟩ ⟨b.targetFile, b.export⟩
  | wildcard {path name target : String} :
      target ∈ s.imports.wildcards path → Hop s ⟨path, .named name⟩ ⟨target, .named name⟩

/-- The places one hop away, in the order of the search. -/
def next (s : Symbols) (p : Place) : List Place :=
  ((s.imports.binding? p.path p.wanted.key).map fun b => ⟨b.targetFile, b.export⟩).toList
    ++ (s.passedOn p.path p.wanted).map (⟨·, p.wanted⟩)

/-- The places one hop away are listed. -/
theorem mem_next_iff {p q : Place} : q ∈ s.next p ↔ s.Hop p q := by
  obtain ⟨path, wanted⟩ := p
  rw [next, List.mem_append, Option.mem_toList, Option.map_eq_some_iff, List.mem_map]
  constructor
  · rintro (⟨b, hb, rfl⟩ | ⟨target, htarget, rfl⟩)
    · exact .binding hb
    · cases wanted with
      | named name => exact .wildcard htarget
      | default => cases htarget
  · rintro (hb | htarget)
    · exact .inl ⟨_, hb, rfl⟩
    · exact .inr ⟨_, htarget, rfl⟩

/--
Hops through places that hold nothing, each visited under something that is neither to be avoided
nor visited before.
-/
inductive Trail (s : Symbols) : List Visit → Nat → Place → Place → Prop
  | stop {avoid : List Visit} {p : Place} :
      p.visit ∉ avoid → s.held? p.path p.wanted = none → Trail s avoid 0 p p
  | hop {avoid : List Visit} {n : Nat} {p q r : Place} :
      p.visit ∉ avoid → s.held? p.path p.wanted = none → s.Hop p q →
      Trail s (p.visit :: avoid) n q r → Trail s avoid (n + 1) p r

namespace Trail

variable {avoid avoid' : List Visit} {n : Nat} {p q : Place}

/-- A trail may be walked with less to avoid. -/
theorem mono (h : s.Trail avoid' n p q) (hsub : avoid ⊆ avoid') : s.Trail avoid n p q := by
  induction h generalizing avoid with
  | stop hnew hheld => exact .stop (fun hmem => hnew (hsub hmem)) hheld
  | hop hnew hheld hhop _ ih =>
    exact .hop (fun hmem => hnew (hsub hmem)) hheld hhop (ih (List.cons_subset_cons _ hsub))

/-- The end of a trail holds nothing. -/
theorem held?_eq_none (h : s.Trail avoid n p q) : s.held? q.path q.wanted = none := by
  induction h with
  | stop _ hheld => exact hheld
  | hop _ _ _ _ ih => exact ih

end Trail

/-! ### What a search visits -/

/--
What a search from some places that found nothing has added to its visits: each new visit is that of
a place at the end of a trail, which is as long as the search may go, or from which every hop leads
to something that was visited.
-/
structure Exhausted (s : Symbols) (hops : Nat) (starts : List Place) (before after : List Visit) :
    Prop where
  subset : before ⊆ after
  seen : ∀ p ∈ starts, p.visit ∈ after
  reached : ∀ v ∈ after, v ∉ before → ∃ p ∈ starts, ∃ q n, q.visit = v ∧ n ≤ hops ∧
    s.Trail before n p q ∧ (n = hops ∨ ∀ r, s.Hop q r → r.visit ∈ after)

namespace Exhausted

variable {hops : Nat} {ps qs : List Place} {p : Place} {before middle after : List Visit}

/-- Nothing is to be searched. -/
theorem of_subset_visited (h : ∀ p ∈ ps, p.visit ∈ before) :
    s.Exhausted hops ps before before :=
  ⟨List.Subset.refl _, h, fun _ hv hnew => absurd hv hnew⟩

/-- One search after the other. -/
theorem append (h : s.Exhausted hops ps before middle) (h' : s.Exhausted hops qs middle after) :
    s.Exhausted hops (ps ++ qs) before after := by
  refine ⟨fun v hv => h'.subset (h.subset hv), fun p hp => ?_, fun v hv hnew => ?_⟩
  · rcases List.mem_append.mp hp with hp | hp
    · exact h'.subset (h.seen p hp)
    · exact h'.seen p hp
  · by_cases hmiddle : v ∈ middle
    · obtain ⟨p, hp, q, n, hvisit, hn, htrail, hend⟩ := h.reached v hmiddle hnew
      exact ⟨p, List.mem_append_left _ hp, q, n, hvisit, hn, htrail,
        hend.imp_right fun hclosed r hr => h'.subset (hclosed r hr)⟩
    · obtain ⟨p, hp, q, n, hvisit, hn, htrail, hend⟩ := h'.reached v hv hmiddle
      exact ⟨p, List.mem_append_right _ hp, q, n, hvisit, hn, htrail.mono h.subset, hend⟩

/-- A place at the end of the search is visited, and nothing else is. -/
theorem stop (hnew : p.visit ∉ before) (hheld : s.held? p.path p.wanted = none) :
    s.Exhausted 0 [p] before (p.visit :: before) := by
  refine ⟨List.subset_cons_self _ _, fun q hq => ?_, fun v hv hv' => ?_⟩
  · rw [List.mem_singleton.mp hq]
    exact List.mem_cons_self
  · obtain rfl := (List.mem_cons.mp hv).resolve_right hv'
    exact ⟨p, List.mem_singleton_self p, p, 0, rfl, Nat.le_refl 0, .stop hnew hheld, .inl rfl⟩

/-- A place is searched by visiting it and searching the places one hop away. -/
theorem hop (hnew : p.visit ∉ before) (hheld : s.held? p.path p.wanted = none)
    (h : s.Exhausted hops (s.next p) (p.visit :: before) after) :
    s.Exhausted (hops + 1) [p] before after := by
  have hp : p ∈ [p] := List.mem_singleton_self p
  have hvisited : p.visit ∈ after := h.subset List.mem_cons_self
  refine ⟨fun v hv => h.subset (List.mem_cons_of_mem _ hv), fun q hq => ?_, fun v hv hv' => ?_⟩
  · rwa [List.mem_singleton.mp hq]
  · by_cases hself : v = p.visit
    · subst hself
      exact ⟨p, hp, p, 0, rfl, Nat.zero_le _, .stop hnew hheld,
        .inr fun r hr => h.seen r (mem_next_iff.mpr hr)⟩
    · have hv'' : v ∉ p.visit :: before := by
        rw [List.mem_cons, not_or]
        exact ⟨hself, hv'⟩
      obtain ⟨q, hq, r, n, hvisit, hn, htrail, hend⟩ := h.reached v hv hv''
      refine ⟨p, hp, r, n + 1, hvisit, by omega, .hop hnew hheld (mem_next_iff.mp hq) htrail, ?_⟩
      rcases hend with rfl | hclosed
      · exact .inl rfl
      · exact .inr hclosed

end Exhausted

section Search

variable {hops : Nat} {visited after : List Visit} {p : Place}

/-- What was visited is not searched again. -/
theorem search_of_mem (hops : Nat) (h : p.visit ∈ visited) :
    s.search hops visited p.path p.wanted = (none, visited) := by
  cases hops with
  | zero =>
    rw [search]
    exact if_pos h
  | succ hops =>
    rw [search]
    exact if_pos h

/-- At the end of the search a place is only asked for what it holds. -/
theorem search_zero (h : p.visit ∉ visited) :
    s.search 0 visited p.path p.wanted = (s.held? p.path p.wanted, p.visit :: visited) := by
  rw [search]
  exact if_neg h

/-- Before the end, the bound name of a place that holds nothing is searched, and then the rest. -/
theorem search_succ (h : p.visit ∉ visited) (hheld : s.held? p.path p.wanted = none) :
    s.search (hops + 1) visited p.path p.wanted =
      match (s.imports.binding? p.path p.wanted.key).elim (none, p.visit :: visited)
          (fun b => s.search hops (p.visit :: visited) b.targetFile b.export) with
      | (some d, visited) => (some d, visited)
      | (none, visited) =>
        firstFound (fun v path => s.search hops v path p.wanted) visited
          (s.passedOn p.path p.wanted) := by
  rw [search]
  refine (if_neg h).trans ?_
  simp only [hheld]
  cases hb : s.imports.binding? p.path p.wanted.key with
  | none => rfl
  | some b =>
    simp only [Option.elim_some]
    cases hbound : s.search hops (p.visit :: visited) b.targetFile b.export with
    | mk found middle =>
      simp only [Place.visit] at hbound
      simp only [hbound]
      cases found <;> rfl

/-- Searching several files one after the other. -/
theorem exhausted_of_firstFound {e : Export}
    (hsearch : ∀ {visited : List Visit} {path : String} {after : List Visit},
      s.search hops visited path e = (none, after) → s.Exhausted hops [⟨path, e⟩] visited after)
    {paths : List String}
    (h : firstFound (fun v path => s.search hops v path e) visited paths = (none, after)) :
    s.Exhausted hops (paths.map (⟨·, e⟩)) visited after := by
  induction paths generalizing visited with
  | nil =>
    obtain ⟨-, rfl⟩ := Prod.mk.inj h
    exact .of_subset_visited nofun
  | cons path paths ih =>
    rw [firstFound] at h
    cases hfirst : s.search hops visited path e with
    | mk found middle =>
      rw [hfirst] at h
      cases found with
      | some d => cases h
      | none => exact (hsearch hfirst).append (ih h)

/-- A search of something visited is exhausted. -/
theorem exhausted_of_mem (hseen : p.visit ∈ visited)
    (h : s.search hops visited p.path p.wanted = (none, after)) :
    s.Exhausted hops [p] visited after := by
  rw [search_of_mem hops hseen] at h
  obtain ⟨-, rfl⟩ := Prod.mk.inj h
  exact .of_subset_visited fun q hq => List.mem_singleton.mp hq ▸ hseen

/-- A search that found nothing is exhausted. -/
theorem exhausted_of_search (h : s.search hops visited p.path p.wanted = (none, after)) :
    s.Exhausted hops [p] visited after := by
  induction hops generalizing visited p after with
  | zero =>
    by_cases hseen : p.visit ∈ visited
    · exact exhausted_of_mem hseen h
    · rw [search_zero hseen] at h
      obtain ⟨hheld, rfl⟩ := Prod.mk.inj h
      exact .stop hseen hheld
  | succ hops ih =>
    by_cases hseen : p.visit ∈ visited
    · exact exhausted_of_mem hseen h
    cases hheld : s.held? p.path p.wanted with
    | some d =>
      rw [search] at h
      simp only [show (p.path, p.wanted.key) ∉ visited from hseen, if_false, hheld] at h
      cases h
    | none =>
      rw [search_succ hseen hheld] at h
      refine .hop hseen hheld ?_
      -- first the bound name, then the files that are imported whole
      rw [next]
      cases hb : s.imports.binding? p.path p.wanted.key with
      | none =>
        rw [hb] at h
        exact exhausted_of_firstFound (fun hs => ih (p := ⟨_, p.wanted⟩) hs) h
      | some b =>
        rw [hb, Option.elim_some] at h
        cases hbound : s.search hops (p.visit :: visited) b.targetFile b.export with
        | mk found middle =>
          rw [hbound] at h
          cases found with
          | some d => cases h
          | none =>
            exact (ih (p := ⟨b.targetFile, b.export⟩) hbound).append
              (exhausted_of_firstFound (fun hs => ih (p := ⟨_, p.wanted⟩) hs) h)

end Search

/-! ### Chains within reach -/

/--
A chain of hops is used up: a place on it, before its end, is also at the end of a longer trail that
goes as far as the search may.
-/
def UsedUp (s : Symbols) (limit length : Nat) (start goal : Place) : Prop :=
  ∃ n m p, n + m = length ∧ 0 < m ∧ n < limit ∧ Steps s.Hop n start p ∧ Steps s.Hop m p goal ∧
    s.Trail [] limit start p

/-- A chain of hops is mistaken: the search comes to the twin of a place on it. -/
def Mistaken (s : Symbols) (limit length : Nat) (start goal : Place) : Prop :=
  ∃ n m p q, n + m = length ∧ Steps s.Hop n start p ∧ Steps s.Hop m p goal ∧ q.Twins p ∧
    ∃ j ≤ limit, s.Trail [] j start q

/-- From a visited place on, a chain to something that is held is interrupted. -/
theorem Exhausted.interrupted {limit : Nat} {start : Place} {after : List Visit}
    (h : s.Exhausted limit [start] [] after) {n m : Nat} {p goal : Place}
    (hfront : Steps s.Hop n start p) (hback : Steps s.Hop m p goal) (hlimit : n + m ≤ limit)
    (hp : p.visit ∈ after) (hgoal : (s.held? goal.path goal.wanted).isSome = true) :
    s.UsedUp limit (n + m) start goal ∨ s.Mistaken limit (n + m) start goal := by
  induction hback generalizing n with
  | refl p =>
    obtain ⟨_, hstart, q, j, hvisit, hj, htrail, -⟩ := h.reached _ hp List.not_mem_nil
    obtain rfl := List.mem_singleton.mp hstart
    by_cases hq : q = p
    · -- the trail ends at the goal, which holds something
      subst hq
      rw [htrail.held?_eq_none] at hgoal
      cases hgoal
    · exact .inr ⟨n, 0, p, q, rfl, hfront, .refl p, Place.twins_of_visit_eq hq hvisit, j, hj,
        htrail⟩
  | @step m p b goal hhop hrest ih =>
    obtain ⟨_, hstart, q, j, hvisit, hj, htrail, hend⟩ := h.reached _ hp List.not_mem_nil
    obtain rfl := List.mem_singleton.mp hstart
    by_cases hq : q = p
    · subst hq
      rcases hend with rfl | hclosed
      · exact .inl ⟨n, m + 1, q, rfl, Nat.succ_pos m, by omega, hfront, .step hhop hrest, htrail⟩
      · have hnext := ih (hfront.snoc hhop) (by omega) (hclosed b hhop) hgoal
        rwa [Nat.add_right_comm] at hnext
    · exact .inr ⟨n, m + 1, p, q, rfl, hfront, .step hhop hrest,
        Place.twins_of_visit_eq hq hvisit, j, hj, htrail⟩

/--
If a chain of hops within the limit ends at something that is held, then a definition is found,
unless a place on the chain was used up by a longer trail or mistaken for its twin.
-/
theorem isSome_lookup (s : Symbols) {limit length : Nat} {path : String} {e : Export}
    {goal : Place} (hchain : Steps s.Hop length ⟨path, e⟩ goal) (hlimit : length ≤ limit)
    (hgoal : (s.held? goal.path goal.wanted).isSome = true) :
    (s.lookup limit path e).isSome = true ∨ s.UsedUp limit length ⟨path, e⟩ goal ∨
      s.Mistaken limit length ⟨path, e⟩ goal := by
  cases hsearch : s.search limit [] path e with
  | mk found after =>
    cases found with
    | some d =>
      refine .inl ?_
      rw [lookup, hsearch]
      rfl
    | none =>
      have hexhausted : s.Exhausted limit [⟨path, e⟩] [] after := exhausted_of_search hsearch
      have hstart : (⟨path, e⟩ : Place).visit ∈ after :=
        hexhausted.seen _ (List.mem_singleton_self _)
      have hinterrupted := hexhausted.interrupted (.refl _) hchain (by omega) hstart hgoal
      rw [Nat.zero_add] at hinterrupted
      exact .inr hinterrupted

/-! ### A short chain behind a long trail -/

namespace Diamond

/-- A function of the file `c.ts`. -/
def definition : Definition :=
  { nodeId := ""
    qualifiedName := "c.n"
    filePath := "c.ts"
    name := "n"
    kind := .functionDecl
    startLine := 1
    endLine := 1 }

/--
The file `f.ts` takes the name `n` from `a.ts`, and all names from `b.ts`; so does `a.ts`, and
`b.ts` takes all names from `c.ts`.
-/
def symbols : Symbols where
  registry := Registry.empty.addDefinition definition
  imports :=
    ⟨[("f.ts",
        { bindings :=
            ⟨[("n", { localName := "n", targetFile := "a.ts", importedName := some "n" })]⟩
          wildcards := ["b.ts"] }),
      ("a.ts", { wildcards := ["b.ts"] }),
      ("b.ts", { wildcards := ["c.ts"] })]⟩

/-- Two hops lead to the function. -/
theorem steps : Steps symbols.Hop 2 ⟨"f.ts", .named "n"⟩ ⟨"c.ts", .named "n"⟩ := by
  have hf : "b.ts" ∈ symbols.imports.wildcards "f.ts" := by decide
  have hb : "c.ts" ∈ symbols.imports.wildcards "b.ts" := by decide
  exact .step (.wildcard hf) (.step (.wildcard hb) (.refl _))

theorem isSome_held? : (symbols.held? "c.ts" (.named "n")).isSome = true := by
  decide +kernel

/-- The way through `a.ts` comes to `b.ts` first, at the end of the search. -/
theorem lookup_eq_none : symbols.lookup 2 "f.ts" (.named "n") = none := by
  decide +kernel

end Diamond

example : Diamond.symbols.lookup 3 "f.ts" (.named "n") = some Diamond.definition := by
  decide +kernel

/-- What interrupts the chain of two hops is a place that was used up, or mistaken. -/
theorem isSome_lookup_diamond :
    Diamond.symbols.UsedUp 2 2 ⟨"f.ts", .named "n"⟩ ⟨"c.ts", .named "n"⟩ ∨
      Diamond.symbols.Mistaken 2 2 ⟨"f.ts", .named "n"⟩ ⟨"c.ts", .named "n"⟩ := by
  refine (isSome_lookup Diamond.symbols Diamond.steps (Nat.le_refl 2)
    Diamond.isSome_held?).resolve_left ?_
  rw [Diamond.lookup_eq_none]
  exact Bool.false_ne_true

/-- A chain of two hops leads to a function, and a search of two hops does not find it. -/
theorem lookup_diamond :
    ∃ (s : Symbols) (limit length : Nat) (path name : String) (goal : Place),
      Steps s.Hop length ⟨path, .named name⟩ goal ∧ length ≤ limit ∧
      (s.held? goal.path goal.wanted).isSome = true ∧ s.lookup limit path (.named name) = none :=
  ⟨Diamond.symbols, 2, 2, "f.ts", "n", ⟨"c.ts", .named "n"⟩, Diamond.steps, Nat.le_refl 2,
    Diamond.isSome_held?, Diamond.lookup_eq_none⟩

end Symbols

end CodeGraph

import CodeGraph.Proofs.Answers

/-!
# One name of a file, or all of them

A file whose only import is another file calls a function of it. The import takes the called name
from the other file, or all names, and either way the other file is searched for the name. But a
call through a bound name starts with all hops before it, and one through a wildcard import has made
one already: it reaches one hop less far. With one more hop it gives what the bound name gives, and
with as many hops it gives that unless the last hop matters.

All this holds as long as the other file does not lead back to the calling one under another name.
There the two imports are told apart by what they pass on: a bound name passes on itself, and a
wildcard import every name.

## Main definitions

* `FileImports.ofName`, `FileImports.ofAll`: a single import of one name, and of all names.
* `Symbols.importing`, `CallContext.importing`: the same other files around a file with such an
  import.

## Main results

* `Symbols.search_ofName_eq_ofAll`: the search is the same with either import, but for the way back.
* `Symbols.search_succ_eq`: a further hop changes nothing, unless a trail needs it.
* `CallContext.wildcard_one_hop_short`: what calls through the two imports have in common.
* `CallContext.wildcard_misses_reexport`: a function that a wildcard import does not reach.
-/

namespace CodeGraph

namespace FileImports

/-- The binding of a name of a file under this name. -/
def binding (target name : String) : ImportBinding where
  localName := name
  targetFile := target
  importedName := some name

/-- The import of one name of a file, and nothing else. -/
def ofName (target name : String) : FileImports where
  bindings := ⟨[(name, binding target name)]⟩

/-- The import of all names of a file, and nothing else. -/
def ofAll (target : String) : FileImports where
  wildcards := [target]

/-- The bound name is the one that is taken, even if it is empty. -/
theorem export_binding (target name : String) : (binding target name).export = .named name := by
  by_cases h : name = ""
  · subst h
    rfl
  · simp [binding, ImportBinding.export, ImportBinding.takenName, present?, Option.filter_some, h]

/-- No other name is bound. -/
theorem get?_bindings_ofName (target name key : String) :
    (ofName target name).bindings.get? key =
      if key = name then some (binding target name) else none := by
  rw [ofName, OrderedMap.get?_mk, List.lookup_cons]
  by_cases h : key = name
  · rw [if_pos h, h, beq_self_eq_true]
  · rw [if_neg h, beq_false_of_ne h]
    rfl

end FileImports

namespace Symbols

variable {s : Symbols}

/-- The same definitions and other files, around a file with given imports. -/
def importing (s : Symbols) (path : String) (i : FileImports) : Symbols :=
  { s with imports := s.imports.insert path i }

section Importing

variable {path target name : String} {i : FileImports} {p : Place}

/-- Other files pass the search on as before. -/
theorem next_importing_of_ne (h : p.path ≠ path) : (s.importing path i).next p = s.next p := by
  obtain ⟨q, e⟩ := p
  have hget : (s.imports.insert path i).get? q = s.imports.get? q := by
    rw [OrderedMap.get?_insert, if_neg h]
  cases e <;>
    simp only [next, importing, ImportMap.binding?, passedOn, ImportMap.wildcards, OrderedMap.getD,
      hget]

theorem binding?_importing_self (key : String) :
    (s.importing path i).imports.binding? path key = i.bindings.get? key := by
  rw [importing, ImportMap.binding?, OrderedMap.get?_insert, if_pos rfl, Option.bind_some]

theorem wildcards_importing_self : (s.importing path i).imports.wildcards path = i.wildcards := by
  rw [importing, ImportMap.wildcards, OrderedMap.getD, OrderedMap.get?_insert, if_pos rfl,
    Option.getD_some]

/-- The file itself passes the search on as its imports say. -/
theorem next_importing_self (e : Export) :
    (s.importing path i).next ⟨path, e⟩ =
      ((i.bindings.get? e.key).map fun b => (⟨b.targetFile, b.export⟩ : Place)).toList ++
        match e with
        | .named name => i.wildcards.map (⟨·, .named name⟩)
        | .default => [] := by
  rw [next, binding?_importing_self]
  cases e with
  | named name => rw [passedOn, wildcards_importing_self]
  | default => rfl

theorem next_ofName (e : Export) :
    (s.importing path (.ofName target name)).next ⟨path, e⟩ =
      if e.key = name then [⟨target, .named name⟩] else [] := by
  rw [next_importing_self, FileImports.get?_bindings_ofName]
  by_cases h : e.key = name
  · rw [if_pos h, if_pos h, Option.map_some, FileImports.export_binding]
    cases e <;> rfl
  · rw [if_neg h, if_neg h]
    cases e <;> rfl

theorem next_ofAll_named (name : String) :
    (s.importing path (.ofAll target)).next ⟨path, .named name⟩ = [⟨target, .named name⟩] := by
  rw [next_importing_self]
  rfl

theorem next_ofAll_default : (s.importing path (.ofAll target)).next ⟨path, .default⟩ = [] := by
  rw [next_importing_self]
  rfl

end Importing

/-! ### Searches that agree -/

section Agree

variable {path target name : String} {hops : Nat} {visited : List Visit} {p : Place}

/-- Two searches agree on several places if they do on each of them, with any further visits. -/
theorem searchAll_congr {t : Symbols} {hops' : Nat} {ps : List Place}
    (h : ∀ p ∈ ps, ∀ v, visited ⊆ v →
      s.search hops v p.path p.wanted = t.search hops' v p.path p.wanted) :
    s.searchAll hops visited ps = t.searchAll hops' visited ps := by
  induction ps generalizing visited with
  | nil => rfl
  | cons p ps ih =>
    have hfirst := h p List.mem_cons_self visited (List.Subset.refl _)
    cases hs : s.search hops visited p.path p.wanted with
    | mk found after =>
      have ht := hfirst.symm.trans hs
      cases found with
      | some d => rw [searchAll_cons_of_some hs, searchAll_cons_of_some ht]
      | none =>
        have hsub : visited ⊆ after := (exhausted_of_search hs).subset
        rw [searchAll_cons_of_none hs, searchAll_cons_of_none ht]
        exact ih fun q hq v hv => h q (List.mem_cons_of_mem _ hq) v fun x hx => hv (hsub hx)

/-- A further hop changes nothing, unless a trail that uses all hops goes on. -/
theorem search_succ_eq (h : ∀ q r, s.Trail visited hops p q → ¬ s.Hop q r) :
    s.search (hops + 1) visited p.path p.wanted = s.search hops visited p.path p.wanted := by
  induction hops using Nat.strong_induction_on generalizing visited p with
  | _ hops ih =>
    by_cases hseen : p.visit ∈ visited
    · rw [search_of_mem _ hseen, search_of_mem _ hseen]
    cases hheld : s.held? p.path p.wanted with
    | some d => rw [search_of_held hseen hheld, search_of_held hseen hheld]
    | none =>
      cases hops with
      | zero =>
        have hnext : s.next p = [] := List.eq_nil_iff_forall_not_mem.mpr fun q hq =>
          h p q (.stop hseen hheld) (mem_next_iff.mp hq)
        rw [search_succ_of_none hseen hheld, hnext, search_zero hseen, hheld]
        rfl
      | succ hops =>
        rw [search_succ_of_none hseen hheld, search_succ_of_none hseen hheld]
        refine searchAll_congr fun q hq v hv => ih hops (Nat.lt_succ_self hops) ?_
        intro q' r htrail
        exact h q' r (.hop hseen hheld (mem_next_iff.mp hq) (htrail.mono hv))

/--
The way on from a place is the same with either import, unless the place is another name of the
importing file. The default of the file may be bound to the name that was asked for first.
-/
theorem searchAll_next_ofName (t : Symbols) (hfirst : (target, name) ∈ visited)
    (hback : ∀ other ≠ name, p ≠ ⟨path, .named other⟩) :
    t.searchAll hops visited ((s.importing path (.ofName target name)).next p) =
      t.searchAll hops visited ((s.importing path (.ofAll target)).next p) := by
  by_cases hpath : p.path = path
  · obtain ⟨_, e⟩ := p
    obtain rfl : _ = path := hpath
    cases e with
    | named other =>
      have hother : other = name := by
        by_contra hne
        exact hback other hne rfl
      rw [next_ofName, next_ofAll_named, hother]
      exact congrArg _ (if_pos rfl)
    | default =>
      rw [next_ofName, next_ofAll_default]
      split
      · rw [searchAll_singleton, search_of_mem hops hfirst]
        rfl
      · rfl
  · rw [next_importing_of_ne hpath, next_importing_of_ne hpath]

/--
Once the name was asked for, the search is the same with either import, unless a trail leads back to
another name of the importing file and may go on from there.
-/
theorem search_ofName_eq_ofAll (hfirst : (target, name) ∈ p.visit :: visited)
    (hback : ∀ n < hops, ∀ other ≠ name,
      ¬ (s.importing path (.ofName target name)).Trail visited n p ⟨path, .named other⟩) :
    (s.importing path (.ofName target name)).search hops visited p.path p.wanted =
      (s.importing path (.ofAll target)).search hops visited p.path p.wanted := by
  induction hops generalizing visited p with
  | zero =>
    by_cases hseen : p.visit ∈ visited
    · rw [search_of_mem _ hseen, search_of_mem _ hseen]
    · rw [search_zero hseen, search_zero hseen]
      rfl
  | succ hops ih =>
    by_cases hseen : p.visit ∈ visited
    · rw [search_of_mem _ hseen, search_of_mem _ hseen]
    -- both hold the same definitions
    cases hheld : (s.importing path (.ofName target name)).held? p.path p.wanted with
    | some d =>
      have hheld' : (s.importing path (.ofAll target)).held? p.path p.wanted = some d := hheld
      rw [search_of_held hseen hheld, search_of_held hseen hheld']
    | none =>
      have hheld' : (s.importing path (.ofAll target)).held? p.path p.wanted = none := hheld
      have hother : ∀ other ≠ name, p ≠ ⟨path, .named other⟩ := by
        rintro other hne rfl
        exact hback 0 (Nat.succ_pos hops) other hne (.stop hseen hheld)
      rw [search_succ_of_none hseen hheld, search_succ_of_none hseen hheld',
        ← searchAll_next_ofName _ hfirst hother]
      refine searchAll_congr fun q hq v hv => ih (List.mem_cons_of_mem _ (hv hfirst)) ?_
      intro n hn other hne htrail
      exact hback (n + 1) (Nat.succ_lt_succ hn) other hne
        (.hop hseen hheld (mem_next_iff.mp hq) (htrail.mono hv))

end Agree

/-- A trail without hops ends where it starts. -/
theorem Trail.eq_of_zero {avoid : List Visit} {p q : Place} (h : s.Trail avoid 0 p q) : p = q := by
  cases h
  rfl

/--
A trail leads from the name of a file back to another name of the importing file, and the search may
go on from there.
-/
def LeadsBack (s : Symbols) (hops : Nat) (path target name : String) : Prop :=
  ∃ n < hops, ∃ other ≠ name, s.Trail [] n ⟨target, .named name⟩ ⟨path, .named other⟩

/-- If nothing leads back, both imports look the name up alike. -/
theorem lookup_ofName_eq_ofAll {hops : Nat} {path target name : String}
    (h : ¬ (s.importing path (.ofName target name)).LeadsBack hops path target name) :
    (s.importing path (.ofName target name)).lookup hops target (.named name) =
      (s.importing path (.ofAll target)).lookup hops target (.named name) := by
  have hback : ∀ n < hops, ∀ other ≠ name,
      ¬ (s.importing path (.ofName target name)).Trail [] n ⟨target, .named name⟩
        ⟨path, .named other⟩ :=
    fun n hn other hne htrail => h ⟨n, hn, other, hne, htrail⟩
  exact congrArg Prod.fst
    (search_ofName_eq_ofAll (p := ⟨target, .named name⟩) List.mem_cons_self hback)

/-- A further hop changes the answer of a look-up only where a trail needs it. -/
theorem lookup_pred_eq_or (s : Symbols) (hops : Nat) (p : Place) :
    s.lookup (hops - 1) p.path p.wanted = s.lookup hops p.path p.wanted ∨
      ∃ n q r, hops = n + 1 ∧ s.Trail [] n p q ∧ s.Hop q r := by
  cases hops with
  | zero => exact .inl rfl
  | succ n =>
    by_cases h : ∃ q r, s.Trail [] n p q ∧ s.Hop q r
    · obtain ⟨q, r, htrail, hhop⟩ := h
      exact .inr ⟨n, q, r, rfl, htrail, hhop⟩
    · refine .inl (congrArg Prod.fst (search_succ_eq fun q r htrail hhop => ?_).symm)
      exact h ⟨q, r, htrail, hhop⟩

end Symbols

namespace CallContext

/-- The same definitions and other files, around a file with given imports. -/
def importing (c : CallContext) (path : String) (i : FileImports) : CallContext :=
  { c with toSymbols := c.toSymbols.importing path i }

section Routes

variable (c : CallContext) (site : CallSite) (target : String)

/-- A bound name is looked for in its file with all hops. -/
theorem throughImports?_ofName :
    (c.importing site.filePath (.ofName target site.calledName)).throughImports?
        { site with receiver := none } =
      (c.toSymbols.importing site.filePath (.ofName target site.calledName)).lookup c.maxHops target
        (.named site.calledName) := by
  have hbinding : (c.importing site.filePath (.ofName target site.calledName)).imports.binding?
      site.filePath site.calledName = some (FileImports.binding target site.calledName) := by
    rw [importing, Symbols.binding?_importing_self, FileImports.get?_bindings_ofName, if_pos rfl]
  simp only [throughImports?, importedFunction?, hbinding, Symbols.follow,
    FileImports.export_binding]
  rfl

/-- Through a wildcard import a name is looked for with one hop less. -/
theorem throughImports?_ofAll :
    (c.importing site.filePath (.ofAll target)).throughImports? { site with receiver := none } =
      (c.toSymbols.importing site.filePath (.ofAll target)).lookup (c.maxHops - 1) target
        (.named site.calledName) := by
  have hnone : (c.importing site.filePath (.ofAll target)).imports.binding? site.filePath
      site.calledName = none := Symbols.binding?_importing_self _
  have hwildcards : (c.importing site.filePath (.ofAll target)).imports.wildcards site.filePath =
      [target] := Symbols.wildcards_importing_self
  simp only [throughImports?, importedFunction?, hnone, hwildcards]
  exact List.findSome?_singleton

end Routes

/--
Whatever the other files hold and import, whatever the file that is imported, the called name and
the number of hops: a call through a wildcard import that may go one hop further has the target of
the call through the bound name, and with as many hops it has that target too, unless a trail from
the called name uses all hops but the last one and goes on. The one other case is that a trail leads
back to the calling file under another name, which only a wildcard import passes on.
-/
theorem wildcard_one_hop_short (c : CallContext) (site : CallSite) (target : String) :
    let call := { site with receiver := none }
    let named := c.importing site.filePath (.ofName target site.calledName)
    let whole := c.importing site.filePath (.ofAll target)
    named.LeadsBack c.maxHops site.filePath target site.calledName ∨
      { whole with maxHops := c.maxHops + 1 }.throughImports? call = named.throughImports? call ∧
      (whole.throughImports? call = named.throughImports? call ∨
        ∃ n q r, c.maxHops = n + 1 ∧ whole.Trail [] n ⟨target, .named site.calledName⟩ q ∧
          whole.Hop q r) := by
  intro call named whole
  have hnamed := throughImports?_ofName c site target
  have hwhole := throughImports?_ofAll c site target
  have hfurther := throughImports?_ofAll { c with maxHops := c.maxHops + 1 } site target
  by_cases hback : named.LeadsBack c.maxHops site.filePath target site.calledName
  · exact .inl hback
  · have hsame := Symbols.lookup_ofName_eq_ofAll hback
    refine .inr ⟨hfurther.trans (hnamed.trans hsame).symm, ?_⟩
    rw [hnamed, hsame, hwhole]
    exact Symbols.lookup_pred_eq_or _ c.maxHops ⟨target, .named site.calledName⟩

/-! ### A function behind one re-export -/

namespace Barrel

/-- A function of the file `u.py`. -/
def definition : Definition :=
  { nodeId := ""
    qualifiedName := "u.n"
    filePath := "u.py"
    name := "n"
    kind := .functionDecl
    startLine := 1
    endLine := 1 }

/-- The file `t.py` passes on all names of `u.py`, and a search may take one hop. -/
def context : CallContext where
  registry := Registry.empty.addDefinition definition
  imports := ⟨[("t.py", .ofAll "u.py")]⟩
  maxHops := 1

/-- A call of the function in the file `c.py`. -/
def site : CallSite :=
  { filePath := "c.py", calledName := "n", line := 2 }

/-- The bound name leads to the function, and the wildcard import does not. -/
theorem throughImports?_site :
    (context.importing "c.py" (.ofName "t.py" "n")).throughImports? site = some definition ∧
      (context.importing "c.py" (.ofAll "t.py")).throughImports? site = none := by
  decide +kernel

/-- Nothing leads back to `c.py`: with one hop the search could only go on from where it starts. -/
theorem not_leadsBack :
    ¬ (context.importing "c.py" (.ofName "t.py" "n")).LeadsBack context.maxHops "c.py" "t.py"
      "n" := by
  rintro ⟨n, hn, other, -, htrail⟩
  obtain rfl : n = 0 := Nat.lt_one_iff.mp hn
  have hfile : "t.py" = "c.py" := congrArg Place.path htrail.eq_of_zero
  exact absurd hfile (by decide)

/-- A function `m` of the file `t.py`, which takes the name `n` from the `m` of `c.py`. -/
def roundabout : CallContext where
  registry := Registry.empty.addDefinition { definition with filePath := "t.py", name := "m" }
  imports :=
    ⟨[("t.py", { bindings :=
        ⟨[("n", { localName := "n", targetFile := "c.py", importedName := some "m" })]⟩ })]⟩

-- the way back to `c.py` goes on to the function only if all names of `t.py` are there
example :
    (roundabout.importing "c.py" (.ofName "t.py" "n")).throughImports? site = none ∧
      ((roundabout.importing "c.py" (.ofAll "t.py")).throughImports? site).isSome = true := by
  decide +kernel

end Barrel

/-- A call that has a target through the bound name, and none through the wildcard import. -/
theorem wildcard_misses_reexport :
    ∃ (c : CallContext) (site : CallSite) (target : String) (d : Definition),
      site.receiver = none ∧
      ¬ (c.importing site.filePath (.ofName target site.calledName)).LeadsBack c.maxHops
        site.filePath target site.calledName ∧
      (c.importing site.filePath (.ofName target site.calledName)).throughImports? site = some d ∧
      (c.importing site.filePath (.ofAll target)).throughImports? site = none :=
  ⟨Barrel.context, Barrel.site, "t.py", Barrel.definition, rfl, Barrel.not_leadsBack,
    Barrel.throughImports?_site⟩

end CallContext

end CodeGraph

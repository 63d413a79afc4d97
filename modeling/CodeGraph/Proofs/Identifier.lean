import CodeGraph.Graph
import Mathlib.Data.List.Basic

/-!
# What identifiers identify

An identifier is the digest of a text. Here is what these texts say: kinds and digests hold no
colon, so the parts of a text can be told apart, and texts of different sorts of nodes differ.

## Main definitions

* `Identifier.structureText`, `Relationship.idSource`: the texts behind identifiers, beside
  `Definition.idSource`.

## Main results

* `Identifier.colon_notMem_digest`: a digest has no colon.
* `Identifier.structureText_inj`, `Relationship.idSource_inj`: texts determine their parts.
* `Definition.kind_eq_of_idSource_eq`, `Definition.idSource_ne_structureText`: a definition's text
  tells its kind, and is no text of a file or folder.
-/

namespace CodeGraph

/-- Two texts with the same separator agree on what stands before its first occurrence. -/
theorem append_separator_inj {xs ys us vs : List Char} {c : Char} (hx : c ∉ xs) (hy : c ∉ ys)
    (h : xs ++ c :: us = ys ++ c :: vs) : xs = ys ∧ us = vs := by
  induction xs generalizing ys with
  | nil =>
    cases ys with
    | nil => simpa using h
    | cons y ys =>
      obtain ⟨rfl, -⟩ := List.cons.inj h
      exact absurd List.mem_cons_self hy
  | cons x xs ih =>
    cases ys with
    | nil =>
      obtain ⟨rfl, -⟩ := List.cons.inj h
      exact absurd List.mem_cons_self hx
    | cons y ys =>
      obtain ⟨rfl, htail⟩ := List.cons.inj h
      obtain ⟨rfl, rfl⟩ := ih (fun hc => hx (List.mem_cons_of_mem _ hc))
        (fun hc => hy (List.mem_cons_of_mem _ hc)) htail
      exact ⟨rfl, rfl⟩

/-! ### Digests and kinds hold no colon -/

/-- No hexadecimal digit is a colon. -/
theorem digitChar_ne_colon : ∀ n < 16, Nat.digitChar n ≠ ':' := by
  decide

/-- Hexadecimal digits hold no colon. -/
theorem colon_notMem_toDigits (n : Nat) : ':' ∉ Nat.toDigits 16 n := by
  induction n using Nat.strongRecOn with
  | ind n ih =>
    rw [Nat.toDigits_eq_if (by decide)]
    split
    · next hlt =>
      intro h
      exact digitChar_ne_colon n hlt (List.mem_singleton.mp h).symm
    · intro h
      rcases List.mem_append.mp h with h | h
      · exact ih (n / 16) (by omega) h
      · exact digitChar_ne_colon _ (Nat.mod_lt n (by decide)) (List.mem_singleton.mp h).symm

/-- A padded hexadecimal number holds no colon. -/
theorem Text.colon_notMem_hexPadded (width n : Nat) : ':' ∉ (Text.hexPadded width n).toList := by
  simp only [Text.hexPadded, String.toList_ofList, List.mem_append, List.mem_replicate]
  rintro (⟨-, h⟩ | h)
  · exact absurd h (by decide)
  · exact colon_notMem_toDigits n h

/-- A digest holds no colon. -/
theorem Identifier.colon_notMem_digest (raw : String) : ':' ∉ (Identifier.digest raw).toList := by
  simp only [Identifier.digest, Text.take, Digest.ofText, String.toList_ofList, String.toList_join]
  intro h
  obtain ⟨w, hw, hc⟩ := List.mem_flatMap.mp (List.mem_of_mem_take h)
  obtain ⟨word, -, rfl⟩ := List.mem_map.mp hw
  exact Text.colon_notMem_hexPadded 8 _ hc

theorem NodeKind.colon_notMem_name (k : NodeKind) : ':' ∉ k.name.toList := by
  cases k <;> decide

theorem RelKind.colon_notMem_name (k : RelKind) : ':' ∉ k.name.toList := by
  cases k <;> decide

theorem DefinitionKind.colon_notMem_name (k : DefinitionKind) : ':' ∉ k.name.toList := by
  cases k <;> decide

theorem NodeKind.name_inj {k k' : NodeKind} (h : k.name.toList = k'.name.toList) : k = k' := by
  revert h
  cases k <;> cases k' <;> decide

theorem RelKind.name_inj {k k' : RelKind} (h : k.name.toList = k'.name.toList) : k = k' := by
  revert h
  cases k <;> cases k' <;> decide

theorem DefinitionKind.name_inj {k k' : DefinitionKind} (h : k.name.toList = k'.name.toList) :
    k = k' := by
  revert h
  cases k <;> cases k' <;> decide

/-- Kinds of definitions are written in lower case, kinds of nodes are not. -/
theorem DefinitionKind.name_ne_nodeKind_name (k : DefinitionKind) (k' : NodeKind) :
    k.name.toList ≠ k'.name.toList := by
  cases k <;> cases k' <;> decide

/-! ### Texts behind identifiers -/

/-- The text that identifies a project, folder, package or file node. -/
def Identifier.structureText (kind : NodeKind) (path : String) : String :=
  kind.name ++ ":" ++ path

/-- The text that identifies a relationship. -/
def Relationship.idSource (r : Relationship) : String :=
  r.source ++ ":" ++ r.kind.name ++ ":" ++ r.target

/-- The text behind a structure identifier determines kind and path. -/
theorem Identifier.structureText_inj {k k' : NodeKind} {p p' : String}
    (h : structureText k p = structureText k' p') : k = k' ∧ p = p' := by
  have hlist : k.name.toList ++ ':' :: p.toList = k'.name.toList ++ ':' :: p'.toList := by
    simpa [structureText] using congrArg String.toList h
  obtain ⟨hk, hp⟩ :=
    append_separator_inj (NodeKind.colon_notMem_name k) (NodeKind.colon_notMem_name k') hlist
  exact ⟨NodeKind.name_inj hk, String.toList_inj.mp hp⟩

/-- The text of a relationship between digests determines the relationship but its properties. -/
theorem Relationship.idSource_inj {r r' : Relationship} (hr : ':' ∉ r.source.toList)
    (hr' : ':' ∉ r'.source.toList) (h : r.idSource = r'.idSource) :
    r.source = r'.source ∧ r.kind = r'.kind ∧ r.target = r'.target := by
  have hlist : r.source.toList ++ ':' :: (r.kind.name.toList ++ ':' :: r.target.toList) =
      r'.source.toList ++ ':' :: (r'.kind.name.toList ++ ':' :: r'.target.toList) := by
    simpa [idSource] using congrArg String.toList h
  obtain ⟨hs, hrest⟩ := append_separator_inj hr hr' hlist
  obtain ⟨hk, ht⟩ :=
    append_separator_inj (RelKind.colon_notMem_name _) (RelKind.colon_notMem_name _) hrest
  exact ⟨String.toList_inj.mp hs, RelKind.name_inj hk, String.toList_inj.mp ht⟩

/-- A definition's text starts with its kind and a colon. -/
theorem Definition.toList_idSource (d : Definition) :
    ∃ rest, d.idSource.toList = d.kind.name.toList ++ ':' :: rest := by
  refine ⟨(Text.join ":" [d.filePath, d.name, toString d.startByte, toString d.endByte]).toList, ?_⟩
  simp only [idSource, Identifier.definitionSource, Text.join, String.toList_ofList, List.map_cons,
    List.intercalate_cons_cons]
  rw [show (":" : String).toList = [':'] from rfl, List.append_assoc, List.singleton_append]

/-- Definitions with the same text are of the same kind. -/
theorem Definition.kind_eq_of_idSource_eq {d d' : Definition} (h : d.idSource = d'.idSource) :
    d.kind = d'.kind := by
  obtain ⟨rest, hd⟩ := d.toList_idSource
  obtain ⟨rest', hd'⟩ := d'.toList_idSource
  rw [h, hd'] at hd
  exact (DefinitionKind.name_inj (append_separator_inj (DefinitionKind.colon_notMem_name _)
    (DefinitionKind.colon_notMem_name _) hd).1).symm

/-- The text of a definition is no text of a project, folder, package or file. -/
theorem Definition.idSource_ne_structureText (d : Definition) (k : NodeKind) (path : String) :
    d.idSource ≠ Identifier.structureText k path := by
  intro h
  obtain ⟨rest, hd⟩ := d.toList_idSource
  have hk : k.name.toList ++ ':' :: path.toList = d.kind.name.toList ++ ':' :: rest := by
    rw [← hd, h]
    simp [Identifier.structureText]
  exact DefinitionKind.name_ne_nodeKind_name d.kind k (append_separator_inj
    (NodeKind.colon_notMem_name _) (DefinitionKind.colon_notMem_name _) hk).1.symm

/-- The identifier of a relationship made from its end points is the digest of its text. -/
theorem Relationship.id_between (k : RelKind) (s t : String) (props : Properties) :
    (between k s t props).id = Identifier.digest (between k s t props).idSource :=
  rfl

/-- A relationship made from end points is made from its own. -/
theorem Relationship.eq_between {r : Relationship} {k : RelKind} {s t : String} {props : Properties}
    (h : r = between k s t props) : r = between r.kind r.source r.target r.properties := by
  subst h
  rfl

end CodeGraph

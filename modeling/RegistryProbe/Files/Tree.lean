import RegistryProbe.Bytes

/-! # Trees of files and directories

  A tree is the list of what stands in its root directory. There are no links and no permissions,
  so a place is reached by exactly one list of names, and what stands above it are directories.

  - `look?` is the view of a tree: what stands at a place.
  - `put` puts a node at a place, `prune` removes whatever stands there, with all below it.
  - The laws of the two are said through the view: `look?_put`, `look?_prune`.
-/

namespace RegistryProbe.Files

/-- A file with its content or a directory with the nodes in it. -/
inductive Node where
  /-- A file. -/
  | file (content : Bytes)
  /-- A directory. -/
  | directory (children : List (String × Node))
deriving BEq, Repr, Inhabited

/-- The nodes in a directory, by name. -/
abbrev Tree := List (String × Node)

/-- The names that lead from the root to a place. -/
abbrev Location := List String

/-- What stands at a place, without what stands below it. -/
inductive Entry where
  /-- A file with this content. -/
  | file (content : Bytes)
  /-- A directory. -/
  | directory
deriving DecidableEq, Repr

/-- What a node is, without what stands below it. -/
def Node.entry : Node → Entry
  | .file b => .file b
  | .directory _ => .directory

namespace Tree

/-! ### The view -/

/-- The node at a place below the root. -/
def node? (t : Tree) : Location → Option Node
  | [] => some (.directory t)
  | name :: rest =>
    match t.lookup name with
    | none => none
    | some (.file b) => if rest = [] then some (.file b) else none
    | some (.directory children) => node? children rest

/-- What stands at a place. The root is always a directory. -/
def look? (t : Tree) (p : Location) : Option Entry := (node? t p).map Node.entry

/-! ### Changes -/

/-- Gives a name in a directory to a node, in place of an earlier one. -/
def assign (name : String) (n : Node) : Tree → Tree
  | [] => [(name, n)]
  | (k, m) :: rest => if k = name then (name, n) :: rest else (k, m) :: assign name n rest

/-- Removes a name from a directory. -/
def unassign (name : String) (t : Tree) : Tree := t.filter fun m => m.1 ≠ name

/-- Puts a node at a place whose parent is a directory; does nothing elsewhere. -/
def put (n : Node) (t : Tree) : Location → Tree
  | [] => t
  | [name] => assign name n t
  | name :: rest =>
    match t.lookup name with
    | some (.directory children) => assign name (.directory (put n children rest)) t
    | _ => t

/-- Removes what stands at a place and below it. Of the root only the content goes. -/
def prune (t : Tree) : Location → Tree
  | [] => []
  | [name] => unassign name t
  | name :: rest =>
    match t.lookup name with
    | some (.directory children) => assign name (.directory (prune children rest)) t
    | _ => t

/-- Removes what stands below a place. -/
def clear (t : Tree) (p : Location) : Tree :=
  match p with
  | [] => []
  | _ => put (.directory []) t p

/-! ### Laws -/

@[simp] theorem lookup_assign_self (name : String) (n : Node) (t : Tree) :
    (assign name n t).lookup name = some n := by
  induction t with
  | nil => simp [assign]
  | cons m t ih =>
    obtain ⟨k, w⟩ := m
    unfold assign
    split
    · simp
    · next h => simp [List.lookup_cons, beq_eq_false_iff_ne.2 (Ne.symm h), ih]

@[simp] theorem lookup_assign_ne {name other : String} (h : other ≠ name) (n : Node) (t : Tree) :
    (assign name n t).lookup other = t.lookup other := by
  induction t with
  | nil => simp [assign, List.lookup_cons, beq_eq_false_iff_ne.2 h]
  | cons m t ih =>
    obtain ⟨k, w⟩ := m
    unfold assign
    split
    · next heq =>
      subst heq
      simp [List.lookup_cons, beq_eq_false_iff_ne.2 h]
    · simp [List.lookup_cons, ih]

@[simp] theorem lookup_unassign_self (name : String) (t : Tree) :
    (unassign name t).lookup name = none := by
  induction t with
  | nil => rfl
  | cons m t ih =>
    obtain ⟨k, w⟩ := m
    by_cases h : k = name
    · subst h
      simpa [unassign] using ih
    · have : (unassign name ((k, w) :: t)) = (k, w) :: unassign name t := by
        simp [unassign, h]
      rw [this, List.lookup_cons, beq_eq_false_iff_ne.2 (Ne.symm h)]
      exact ih

@[simp] theorem lookup_unassign_ne {name other : String} (h : other ≠ name) (t : Tree) :
    (unassign name t).lookup other = t.lookup other := by
  induction t with
  | nil => rfl
  | cons m t ih =>
    obtain ⟨k, w⟩ := m
    by_cases hk : k = name
    · subst hk
      have : (unassign k ((k, w) :: t)) = unassign k t := by simp [unassign]
      rw [this, List.lookup_cons, beq_eq_false_iff_ne.2 h]
      exact ih
    · have : (unassign name ((k, w) :: t)) = (k, w) :: unassign name t := by
        simp [unassign, hk]
      rw [this, List.lookup_cons, List.lookup_cons, ih]

@[simp] theorem look?_nil (t : Tree) : look? t [] = some .directory := rfl

theorem look?_cons (t : Tree) (name : String) (rest : Location) :
    look? t (name :: rest) =
      match t.lookup name with
      | none => none
      | some (.file b) => if rest = [] then some (.file b) else none
      | some (.directory children) => look? children rest := by
  unfold look?
  rw [node?]
  split
  · rfl
  · split <;> rfl
  · rfl

end Tree

/-- What stands at a place that is reached from a node. -/
def Node.entryBelow? : Node → Location → Option Entry
  | .file b, p => if p = [] then some (.file b) else none
  | .directory children, p => Tree.look? children p

namespace Tree

theorem look?_cons_of_lookup {t : Tree} {name : String} {n : Node} (h : t.lookup name = some n)
    (rest : Location) : look? t (name :: rest) = n.entryBelow? rest := by
  rw [look?_cons, h]
  cases n <;> rfl

/-- A place that is reached through another one shows that the other one is a directory. -/
theorem directory_of_look? {t : Tree} {p q : Location} {e : Entry} (hq : q ≠ [])
    (h : look? t (p ++ q) = some e) : look? t p = some .directory := by
  induction p generalizing t with
  | nil => rfl
  | cons name p ih =>
    rw [List.cons_append] at h
    cases hl : t.lookup name with
    | none => rw [look?_cons, hl] at h; simp at h
    | some n =>
      rw [look?_cons_of_lookup hl] at h ⊢
      match n with
      | .file b => simp [Node.entryBelow?, hq] at h
      | .directory children => exact ih h

/-- After `put` the node stands at its place with all it brings, and nothing else changes. -/
theorem look?_put {t : Tree} {p : Location} (hp : p ≠ []) (n : Node)
    (hdir : look? t p.dropLast = some .directory) (q : Location) :
    look? (put n t p) q =
      if p <+: q then n.entryBelow? (q.drop p.length) else look? t q := by
  induction p generalizing t q with
  | nil => exact absurd rfl hp
  | cons name p ih =>
    match q with
    | [] => simp
    | other :: q =>
      match p with
      | [] =>
        by_cases h : other = name
        · subst h
          rw [put, look?_cons_of_lookup (lookup_assign_self _ _ _)]
          simp [List.cons_prefix_cons]
        · rw [put, look?_cons, lookup_assign_ne h, ← look?_cons]
          simp [List.cons_prefix_cons, Ne.symm h]
      | next :: p =>
        rw [List.dropLast_cons_of_ne_nil (by simp)] at hdir
        cases hl : t.lookup name with
        | none => rw [look?_cons, hl] at hdir; simp at hdir
        | some m =>
          rw [look?_cons_of_lookup hl] at hdir
          match m with
          | .file b =>
            by_cases hnil : (next :: p).dropLast = [] <;> simp [Node.entryBelow?, hnil] at hdir
          | .directory children =>
            have hput : put n t (name :: next :: p) =
                assign name (.directory (put n children (next :: p))) t := by
              rw [put, hl]
              simp
            rw [hput]
            by_cases h : other = name
            · subst h
              rw [look?_cons_of_lookup (lookup_assign_self _ _ _), look?_cons_of_lookup hl]
              show look? (put n children (next :: p)) q = _
              rw [ih (by simp) hdir]
              simp [List.cons_prefix_cons, Node.entryBelow?]
            · rw [look?_cons, lookup_assign_ne h, ← look?_cons]
              simp [List.cons_prefix_cons, Ne.symm h]

/-- After `prune` nothing stands at the place or below it, and nothing else changes. -/
theorem look?_prune {t : Tree} {p : Location} (hp : p ≠ []) (q : Location) :
    look? (prune t p) q = if p <+: q then none else look? t q := by
  induction p generalizing t q with
  | nil => exact absurd rfl hp
  | cons name p ih =>
    match q with
    | [] => simp
    | other :: q =>
      match p with
      | [] =>
        by_cases h : other = name
        · subst h
          rw [prune, look?_cons, lookup_unassign_self]
          simp [List.cons_prefix_cons]
        · rw [prune, look?_cons, lookup_unassign_ne h, ← look?_cons]
          simp [List.cons_prefix_cons, Ne.symm h]
      | next :: p =>
        rw [prune]
        · split
          · next children hl =>
            by_cases h : other = name
            · subst h
              rw [look?_cons_of_lookup (lookup_assign_self _ _ _), look?_cons_of_lookup hl]
              show look? (prune children (next :: p)) q = _
              rw [ih (by simp)]
              simp [List.cons_prefix_cons, Node.entryBelow?]
            · rw [look?_cons, lookup_assign_ne h, ← look?_cons]
              simp [List.cons_prefix_cons, Ne.symm h]
          · next hl =>
            by_cases h : name = other ∧ next :: p <+: q
            · obtain ⟨rfl, r, rfl⟩ := h
              rw [if_pos (by simp [List.cons_prefix_cons])]
              cases hm : t.lookup name with
              | none => rw [look?_cons, hm]
              | some m =>
                rw [look?_cons_of_lookup hm]
                match m with
                | .file b => simp [Node.entryBelow?]
                | .directory children => exact absurd hm (hl children)
            · rw [if_neg (by simpa [List.cons_prefix_cons] using h)]
        · simp

/-- Below a place that is no directory nothing stands. -/
theorem look?_below {t : Tree} {p q : Location} (hq : q ≠ [])
    (h : look? t p ≠ some .directory) : look? t (p ++ q) = none := by
  cases he : look? t (p ++ q) with
  | none => rfl
  | some e => exact absurd (directory_of_look? hq he) h

/-- Writing a file where no directory stands changes nothing at any other place. -/
theorem look?_put_file {t : Tree} {p : Location} (hp : p ≠ []) (b : Bytes)
    (hdir : look? t p.dropLast = some .directory) (hfile : look? t p ≠ some .directory)
    (q : Location) :
    look? (put (.file b) t p) q = if q = p then some (.file b) else look? t q := by
  rw [look?_put hp _ hdir]
  by_cases h : p <+: q
  · obtain ⟨r, rfl⟩ := h
    cases r with
    | nil => simp [Node.entryBelow?]
    | cons c r =>
      rw [look?_below (by simp) hfile]
      simp [Node.entryBelow?]
  · have hne : q ≠ p := by
      rintro rfl
      exact h (List.prefix_refl _)
    rw [if_neg h, if_neg hne]

/-- Making a directory where nothing stands changes nothing at any other place. -/
theorem look?_put_directory {t : Tree} {p : Location} (hp : p ≠ [])
    (hdir : look? t p.dropLast = some .directory) (hnone : look? t p = none) (q : Location) :
    look? (put (.directory []) t p) q = if q = p then some .directory else look? t q := by
  rw [look?_put hp _ hdir]
  by_cases h : p <+: q
  · obtain ⟨r, rfl⟩ := h
    cases r with
    | nil => simp [Node.entryBelow?]
    | cons c r =>
      rw [look?_below (by simp) (by simp [hnone])]
      simp [Node.entryBelow?, look?_cons]
  · have hne : q ≠ p := by
      rintro rfl
      exact h (List.prefix_refl _)
    rw [if_neg h, if_neg hne]

end Tree

end RegistryProbe.Files

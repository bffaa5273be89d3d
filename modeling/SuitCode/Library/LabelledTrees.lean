import Mathlib.Data.List.Basic

/-!
# Labelled trees

Ordered trees with a label at each node.  A node is told apart from another by its address,
the places of the children on the way to it; equal subtrees may stand at several addresses.
-/

inductive LabelledTree (α : Type) where
  | node (label : α) (children : List (LabelledTree α))

namespace LabelledTree

variable {α : Type}

def label : LabelledTree α → α
  | node label _ => label

def children : LabelledTree α → List (LabelledTree α)
  | node _ children => children

abbrev Address := List ℕ

def subtreeAt (tree : LabelledTree α) : Address → Option (LabelledTree α)
  | [] => some tree
  | place :: rest =>
      match tree.children[place]? with
      | some child => child.subtreeAt rest
      | none => none

mutual

/-- The nodes of a tree with their addresses, each before those below it. -/
def visited : LabelledTree α → List (Address × LabelledTree α)
  | node label children => ([], node label children) :: visitedFrom 0 children

def visitedFrom : ℕ → List (LabelledTree α) → List (Address × LabelledTree α)
  | _, [] => []
  | place, child :: others =>
      child.visited.map (fun entry => (place :: entry.1, entry.2)) ++ visitedFrom (place + 1) others

end

theorem subtreeAt_append (tree : LabelledTree α) (front back : Address) :
    tree.subtreeAt (front ++ back) =
      (tree.subtreeAt front).bind fun subtree => subtree.subtreeAt back := by
  induction front generalizing tree with
  | nil => rfl
  | cons place front ih =>
      rw [List.cons_append, subtreeAt, subtreeAt]
      cases tree.children[place]? with
      | none => rfl
      | some child => exact ih child

theorem mem_visitedFrom_iff {start : ℕ} {children : List (LabelledTree α)} {address : Address}
    {subtree : LabelledTree α} :
    (address, subtree) ∈ visitedFrom start children ↔
      ∃ place child rest, children[place]? = some child ∧
        address = (start + place) :: rest ∧ (rest, subtree) ∈ child.visited := by
  induction children generalizing start with
  | nil => simp [visitedFrom]
  | cons first others ih =>
      rw [visitedFrom, List.mem_append, List.mem_map, ih]
      constructor
      · intro hmem
        cases hmem with
        | inl hfirst =>
            obtain ⟨⟨rest, found⟩, hfound, heq⟩ := hfirst
            obtain ⟨haddress, hsubtree⟩ := Prod.mk.inj heq
            refine ⟨0, first, rest, rfl, ?_, ?_⟩
            · rw [Nat.add_zero]
              exact haddress.symm
            · rw [← hsubtree]
              exact hfound
        | inr hothers =>
            obtain ⟨place, child, rest, hchild, haddress, hmem⟩ := hothers
            refine ⟨place + 1, child, rest, ?_, ?_, hmem⟩
            · rw [List.getElem?_cons_succ]
              exact hchild
            · rw [haddress]
              congr 1
              omega
      · rintro ⟨place, child, rest, hchild, haddress, hmem⟩
        cases place with
        | zero =>
            rw [List.getElem?_cons_zero, Option.some.injEq] at hchild
            left
            refine ⟨(rest, subtree), ?_, ?_⟩
            · rw [hchild]
              exact hmem
            · rw [haddress, Nat.add_zero]
        | succ place =>
            rw [List.getElem?_cons_succ] at hchild
            right
            refine ⟨place, child, rest, hchild, ?_, hmem⟩
            rw [haddress]
            congr 1
            omega

theorem mem_visited_iff {tree : LabelledTree α} {address : Address}
    {subtree : LabelledTree α} :
    (address, subtree) ∈ tree.visited ↔ tree.subtreeAt address = some subtree := by
  induction address generalizing tree with
  | nil =>
      obtain ⟨label, children⟩ := tree
      rw [visited, List.mem_cons, mem_visitedFrom_iff, subtreeAt, Option.some.injEq]
      simp [eq_comm]
  | cons place rest ih =>
      obtain ⟨label, children⟩ := tree
      rw [visited, List.mem_cons, mem_visitedFrom_iff, subtreeAt]
      constructor
      · intro hmem
        cases hmem with
        | inl heq => simp at heq
        | inr hchildren =>
            obtain ⟨found, child, back, hchild, haddress, hmem⟩ := hchildren
            rw [Nat.zero_add, List.cons.injEq] at haddress
            rw [haddress.1]
            simp only [LabelledTree.children, hchild]
            rw [← ih, haddress.2]
            exact hmem
      · intro hsubtree
        right
        cases hchild : children[place]? with
        | none => simp [LabelledTree.children, hchild] at hsubtree
        | some child =>
            simp only [LabelledTree.children, hchild] at hsubtree
            refine ⟨place, child, rest, hchild, ?_, ih.mpr hsubtree⟩
            rw [Nat.zero_add]

end LabelledTree

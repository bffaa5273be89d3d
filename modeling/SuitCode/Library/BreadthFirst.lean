import Mathlib.Data.List.Induction
import Mathlib.Data.List.Perm.Subperm
import Mathlib.Data.Nat.Notation
import Mathlib.Data.Set.Card

/-!
# Breadth-first search with a queue

A network gives the edges incident to a node, the node at the far end of an
edge, and the nodes which may be visited at all.  The search pops a node,
records its edges and queues the admitted nodes it has not visited.  Where its
queue runs empty it has visited the admitted nodes within the depth and
recorded the edges incident to the nodes at a smaller distance.
-/

namespace BreadthFirst

structure Network (ν ε κ α : Type) where
  incident : ν → List ε
  far : ν → ε → ν
  key : ε → κ
  accept : ν → Option α
  key_injective : ∀ {v w : ν} {e f : ε}, e ∈ incident v → f ∈ incident w → key e = key f → e = f

structure Visit (ν α : Type) where
  id : ν
  distance : ℕ
  value : α
  deriving DecidableEq, Repr

structure Search (ν ε α : Type) where
  visited : List (Visit ν α)
  edges : List ε
  queue : List (Visit ν α)

variable {ν ε κ α : Type}

variable {d depth : ℕ} {network : Network ν ε κ α} {seeds : List ν} {v : ν} {current : Visit ν α}
  {edge : ε} {edges : List ε} {expanded queue : List (Visit ν α)} {search : Search ν ε α}

/-! ## Distances -/

namespace Network

inductive Within (network : Network ν ε κ α) (seeds : List ν) : ℕ → ν → Prop where
  | seed {d : ℕ} {v : ν} (hseed : v ∈ seeds) (haccept : (network.accept v).isSome = true) :
      Within network seeds d v
  | step {d : ℕ} {v : ν} {e : ε} (hwithin : Within network seeds d v)
      (hedge : e ∈ network.incident v)
      (haccept : (network.accept (network.far v e)).isSome = true) :
      Within network seeds (d + 1) (network.far v e)

def Crossed (network : Network ν ε κ α) (seeds : List ν) (depth : ℕ) (e : ε) : Prop :=
  ∃ v d, d < depth ∧ network.Within seeds d v ∧ e ∈ network.incident v

theorem Within.mono {d' : ℕ} (hwithin : network.Within seeds d v) (hle : d ≤ d') :
    network.Within seeds d' v := by
  induction hwithin generalizing d' with
  | seed hseed haccept => exact .seed hseed haccept
  | @step d v e _ hedge haccept ih =>
      obtain ⟨k, rfl⟩ : ∃ k, d' = k + 1 := ⟨d' - 1, by omega⟩
      exact .step (ih (by omega)) hedge haccept

theorem Within.admitted (hwithin : network.Within seeds d v) :
    (network.accept v).isSome = true := by
  cases hwithin with
  | seed _ haccept => exact haccept
  | step _ _ haccept => exact haccept

end Network

/-! ## The search -/

namespace Network

section Search

variable [DecidableEq ν] [DecidableEq κ]

def recordEdge (network : Network ν ε κ α) (edges : List ε) (edge : ε) : List ε :=
  if network.key edge ∈ edges.map network.key then edges else edges ++ [edge]

def meet (network : Network ν ε κ α) (current : Visit ν α) (search : Search ν ε α) (edge : ε) :
    Search ν ε α :=
  let edges := network.recordEdge search.edges edge
  let next := network.far current.id edge
  if next ∈ search.visited.map Visit.id then
    { search with edges := edges }
  else
    match network.accept next with
    | none => { search with edges := edges }
    | some value =>
        let visit := ⟨next, current.distance + 1, value⟩
        ⟨search.visited ++ [visit], edges, search.queue ++ [visit]⟩

def expand (network : Network ν ε κ α) (depth : ℕ) (search : Search ν ε α) : Search ν ε α :=
  match search.queue with
  | [] => search
  | current :: queue =>
      if depth ≤ current.distance then
        { search with queue := queue }
      else
        (network.incident current.id).foldl (network.meet current)
          { search with queue := queue }

def run (network : Network ν ε κ α) (depth : ℕ) : ℕ → Search ν ε α → Search ν ε α
  | 0, search => search
  | fuel + 1, search =>
      match search.queue with
      | [] => search
      | _ :: _ => network.run depth fuel (network.expand depth search)

/-! ## One node -/

structure Grown (network : Network ν ε κ α) (current : Visit ν α) (met : List ε)
    (search after : Search ν ε α) (found : List (Visit ν α)) : Prop where
  visited : after.visited = search.visited ++ found
  queue : after.queue = search.queue ++ found
  distance : ∀ x ∈ found, x.distance = current.distance + 1
  reached : ∀ x ∈ found, ∃ e ∈ met, network.far current.id e = x.id
  admitted : ∀ x ∈ found, network.accept x.id = some x.value
  nodup : (found.map Visit.id).Nodup
  fresh : ∀ x ∈ found, x.id ∉ search.visited.map Visit.id
  covered : ∀ e ∈ met, (network.accept (network.far current.id e)).isSome = true →
    network.far current.id e ∈ after.visited.map Visit.id
  edges : ∀ e, e ∈ after.edges ↔ e ∈ search.edges ∨ e ∈ met
  edges_nodup : (search.edges.map network.key).Nodup → (after.edges.map network.key).Nodup

omit [DecidableEq ν] in
theorem mem_recordEdge {e : ε} (hunique : ∀ f ∈ edges, network.key f = network.key edge → f = edge) :
    e ∈ network.recordEdge edges edge ↔ e ∈ edges ∨ e = edge := by
  unfold recordEdge
  by_cases hmem : network.key edge ∈ edges.map network.key
  · rw [if_pos hmem]
    obtain ⟨f, hf, hkey⟩ := List.mem_map.mp hmem
    have heq := hunique f hf hkey
    subst heq
    constructor
    · exact .inl
    · rintro (he | rfl)
      · exact he
      · exact hf
  · rw [if_neg hmem, List.mem_append, List.mem_singleton]

omit [DecidableEq ν] in
theorem nodup_recordEdge (edge : ε) (hnodup : (edges.map network.key).Nodup) :
    ((network.recordEdge edges edge).map network.key).Nodup := by
  unfold recordEdge
  by_cases hmem : network.key edge ∈ edges.map network.key
  · rw [if_pos hmem]
    exact hnodup
  · rw [if_neg hmem, List.map_append, List.nodup_append]
    refine ⟨hnodup, by simp, ?_⟩
    intro k hk k' hk' heq
    rw [List.map_singleton, List.mem_singleton] at hk'
    exact hmem (by rwa [← hk', ← heq])

omit [DecidableEq ν] in
theorem of_mem_recordEdge {e : ε} (he : e ∈ network.recordEdge edges edge) :
    e ∈ edges ∨ e = edge := by
  unfold recordEdge at he
  by_cases hmem : network.key edge ∈ edges.map network.key
  · rw [if_pos hmem] at he
    exact .inl he
  · rw [if_neg hmem, List.mem_append, List.mem_singleton] at he
    exact he

omit [DecidableEq ν] in
theorem exists_mem_recordEdge (network : Network ν ε κ α) (edges : List ε) (edge : ε) :
    ∃ e ∈ network.recordEdge edges edge, network.key e = network.key edge := by
  unfold recordEdge
  by_cases hmem : network.key edge ∈ edges.map network.key
  · rw [if_pos hmem]
    exact List.mem_map.mp hmem
  · rw [if_neg hmem]
    exact ⟨edge, by simp, rfl⟩

theorem meet_of_seen (hseen : network.far current.id edge ∈ search.visited.map Visit.id) :
    network.meet current search edge =
      { search with edges := network.recordEdge search.edges edge } := by
  simp only [meet, if_pos hseen]

theorem meet_of_refused (hseen : network.far current.id edge ∉ search.visited.map Visit.id)
    (haccept : network.accept (network.far current.id edge) = none) :
    network.meet current search edge =
      { search with edges := network.recordEdge search.edges edge } := by
  simp only [meet, if_neg hseen, haccept]

theorem meet_of_accepted {value : α}
    (hseen : network.far current.id edge ∉ search.visited.map Visit.id)
    (haccept : network.accept (network.far current.id edge) = some value) :
    network.meet current search edge =
      ⟨search.visited ++ [⟨network.far current.id edge, current.distance + 1, value⟩],
        network.recordEdge search.edges edge,
        search.queue ++ [⟨network.far current.id edge, current.distance + 1, value⟩]⟩ := by
  simp only [meet, if_neg hseen, haccept]

@[simp] theorem edges_meet (network : Network ν ε κ α) (current : Visit ν α)
    (search : Search ν ε α) (edge : ε) :
    (network.meet current search edge).edges = network.recordEdge search.edges edge := by
  by_cases hseen : network.far current.id edge ∈ search.visited.map Visit.id
  · rw [meet_of_seen hseen]
  · cases haccept : network.accept (network.far current.id edge) with
    | none => rw [meet_of_refused hseen haccept]
    | some value => rw [meet_of_accepted hseen haccept]

theorem visited_meet (network : Network ν ε κ α) (current : Visit ν α)
    (search : Search ν ε α) (edge : ε) :
    (network.meet current search edge).visited = search.visited ∨
      ∃ value, network.accept (network.far current.id edge) = some value ∧
        (network.meet current search edge).visited =
          search.visited ++ [⟨network.far current.id edge, current.distance + 1, value⟩] := by
  by_cases hseen : network.far current.id edge ∈ search.visited.map Visit.id
  · rw [meet_of_seen hseen]
    exact .inl rfl
  · cases haccept : network.accept (network.far current.id edge) with
    | none =>
        rw [meet_of_refused hseen haccept]
        exact .inl rfl
    | some value =>
        rw [meet_of_accepted hseen haccept]
        exact .inr ⟨value, rfl, rfl⟩

/-- Every visit holds what its node was accepted with. -/
def Accepted (network : Network ν ε κ α) (search : Search ν ε α) : Prop :=
  ∀ x ∈ search.visited, network.accept x.id = some x.value

theorem Accepted.meet (haccepted : network.Accepted search) (current : Visit ν α) (edge : ε) :
    network.Accepted (network.meet current search edge) := by
  intro x hx
  obtain hsame | ⟨value, haccept, hvisited⟩ := network.visited_meet current search edge
  · rw [hsame] at hx
    exact haccepted x hx
  · rw [hvisited, List.mem_append, List.mem_singleton] at hx
    cases hx with
    | inl hx => exact haccepted x hx
    | inr hx =>
        subst hx
        exact haccept

theorem Grown.meet {met : List ε} {after : Search ν ε α} {found : List (Visit ν α)}
    (hgrown : network.Grown current met search after found)
    (hunique : ∀ f ∈ after.edges, network.key f = network.key edge → f = edge) :
    ∃ found', network.Grown current (met ++ [edge]) search (network.meet current after edge)
      found' := by
  have hedges : ∀ e, e ∈ network.recordEdge after.edges edge ↔
      e ∈ search.edges ∨ e ∈ met ++ [edge] := by
    intro e
    rw [mem_recordEdge hunique, hgrown.edges]
    simp [or_assoc]
  have hnodup : (search.edges.map network.key).Nodup →
      ((network.recordEdge after.edges edge).map network.key).Nodup := fun h =>
    nodup_recordEdge edge (hgrown.edges_nodup h)
  have hreached : ∀ x ∈ found, ∃ e ∈ met ++ [edge], network.far current.id e = x.id := by
    intro x hx
    obtain ⟨e, he, hfar⟩ := hgrown.reached x hx
    exact ⟨e, List.mem_append_left _ he, hfar⟩
  by_cases hseen : network.far current.id edge ∈ after.visited.map Visit.id
  · rw [meet_of_seen hseen]
    refine ⟨found, hgrown.visited, hgrown.queue, hgrown.distance, hreached, hgrown.admitted,
      hgrown.nodup, hgrown.fresh, ?_, hedges, hnodup⟩
    intro e he haccept
    rcases List.mem_append.mp he with he | he
    · exact hgrown.covered e he haccept
    · rw [List.mem_singleton] at he
      subst he
      exact hseen
  · cases haccept : network.accept (network.far current.id edge) with
    | none =>
        rw [meet_of_refused hseen haccept]
        refine ⟨found, hgrown.visited, hgrown.queue, hgrown.distance, hreached, hgrown.admitted,
          hgrown.nodup, hgrown.fresh, ?_, hedges, hnodup⟩
        intro e he hsome
        rcases List.mem_append.mp he with he | he
        · exact hgrown.covered e he hsome
        · rw [List.mem_singleton] at he
          subst he
          simp [haccept] at hsome
    | some value =>
        rw [meet_of_accepted hseen haccept]
        rw [hgrown.visited, List.map_append, List.mem_append, not_or] at hseen
        refine ⟨found ++ [⟨network.far current.id edge, current.distance + 1, value⟩],
          by simp [hgrown.visited], by simp [hgrown.queue], ?_, ?_, ?_, ?_, ?_, ?_, hedges, hnodup⟩
        · intro x hx
          rcases List.mem_append.mp hx with hx | hx
          · exact hgrown.distance x hx
          · rw [List.mem_singleton] at hx
            subst hx
            rfl
        · intro x hx
          rcases List.mem_append.mp hx with hx | hx
          · exact hreached x hx
          · rw [List.mem_singleton] at hx
            subst hx
            exact ⟨edge, by simp, rfl⟩
        · intro x hx
          rcases List.mem_append.mp hx with hx | hx
          · exact hgrown.admitted x hx
          · rw [List.mem_singleton] at hx
            subst hx
            exact haccept
        · rw [List.map_append, List.nodup_append]
          refine ⟨hgrown.nodup, by simp, ?_⟩
          intro v hv w hw heq
          rw [List.map_singleton, List.mem_singleton] at hw
          have hw' : w = network.far current.id edge := hw
          apply hseen.2
          rw [← hw', ← heq]
          exact hv
        · intro x hx
          rcases List.mem_append.mp hx with hx | hx
          · exact hgrown.fresh x hx
          · rw [List.mem_singleton] at hx
            subst hx
            exact hseen.1
        · intro e he hsome
          rw [List.map_append, List.mem_append]
          rcases List.mem_append.mp he with he | he
          · exact .inl (hgrown.covered e he hsome)
          · rw [List.mem_singleton] at he
            subst he
            exact .inr (by simp)

theorem exists_grown_foldl (network : Network ν ε κ α) (current : Visit ν α)
    (search : Search ν ε α) (edges : List ε)
    (hunique : ∀ e ∈ edges, ∀ f, f ∈ search.edges ∨ f ∈ edges →
      network.key f = network.key e → f = e) :
    ∃ found, network.Grown current edges search
      (edges.foldl (network.meet current) search) found := by
  induction edges using List.reverseRecOn with
  | nil =>
      refine ⟨[], ?_⟩
      constructor <;> simp
  | append_singleton edges edge ih =>
      obtain ⟨found, hgrown⟩ := ih fun e he f hf =>
        hunique e (List.mem_append_left _ he) f (hf.imp_right (List.mem_append_left _))
      rw [List.foldl_append]
      apply hgrown.meet
      intro f hf hkey
      apply hunique edge (by simp) f _ hkey
      rcases (hgrown.edges f).mp hf with hf | hf
      · exact .inl hf
      · exact .inr (List.mem_append_left _ hf)

end Search

/-! ## The frontier -/

/-- Between two pops: the visited nodes are the expanded ones and those of the
queue, whose distances ascend and differ by at most one. -/
structure Frontier (network : Network ν ε κ α) (seeds : List ν) (depth : ℕ)
    (expanded : List (Visit ν α)) (search : Search ν ε α) : Prop where
  split : search.visited.Perm (expanded ++ search.queue)
  nodup : (search.visited.map Visit.id).Nodup
  accepted : network.Accepted search
  sound : ∀ x ∈ search.visited, x.distance ≤ depth ∧ network.Within seeds x.distance x.id
  seeds : ∀ v ∈ seeds, (network.accept v).isSome = true →
    ∃ x ∈ search.visited, x.id = v ∧ x.distance = 0
  ordered : search.queue.Pairwise fun x y => x.distance ≤ y.distance
  near : ∀ x ∈ search.visited, ∀ y ∈ search.queue, x.distance ≤ y.distance + 1
  closed : ∀ x ∈ expanded, x.distance < depth → ∀ e ∈ network.incident x.id,
    (network.accept (network.far x.id e)).isSome = true →
    ∃ y ∈ search.visited, y.id = network.far x.id e ∧ y.distance ≤ x.distance + 1
  edges : ∀ e, e ∈ search.edges ↔
    ∃ x ∈ expanded, x.distance < depth ∧ e ∈ network.incident x.id
  edges_nodup : (search.edges.map network.key).Nodup

theorem frontier_start (depth : ℕ) {visits : List (Visit ν α)}
    (hnodup : (visits.map Visit.id).Nodup) (hdistance : ∀ x ∈ visits, x.distance = 0)
    (haccepted : ∀ x ∈ visits, network.accept x.id = some x.value)
    (hids : ∀ v, v ∈ visits.map Visit.id ↔ v ∈ seeds ∧ (network.accept v).isSome = true)
    (hqueue : visits.Perm queue) :
    network.Frontier seeds depth [] ⟨visits, [], queue⟩ where
  split := hqueue
  nodup := hnodup
  accepted := haccepted
  sound := by
    intro x hx
    have hseed := (hids x.id).mp (List.mem_map_of_mem hx)
    rw [hdistance x hx]
    exact ⟨Nat.zero_le _, .seed hseed.1 hseed.2⟩
  seeds := by
    intro v hv haccept
    obtain ⟨x, hx, rfl⟩ := List.mem_map.mp ((hids v).mpr ⟨hv, haccept⟩)
    exact ⟨x, hx, rfl, hdistance x hx⟩
  ordered := by
    apply List.pairwise_of_forall_mem_list
    intro x hx y hy
    rw [hdistance x (hqueue.mem_iff.mpr hx)]
    omega
  near := by
    intro x hx y hy
    rw [hdistance x hx]
    omega
  closed := by simp
  edges := by simp
  edges_nodup := by simp

theorem Frontier.mem_visited_of_mem_queue (hfrontier : network.Frontier seeds depth expanded search)
    {x : Visit ν α} (hx : x ∈ search.queue) : x ∈ search.visited :=
  hfrontier.split.mem_iff.mpr (List.mem_append_right _ hx)

theorem Frontier.skip (hfrontier : network.Frontier seeds depth expanded search)
    (hqueue : search.queue = current :: queue) (hdepth : depth ≤ current.distance) :
    network.Frontier seeds depth (expanded ++ [current]) { search with queue := queue } where
  split := by
    have hsplit := hfrontier.split
    rw [hqueue] at hsplit
    simpa using hsplit
  nodup := hfrontier.nodup
  accepted := hfrontier.accepted
  sound := hfrontier.sound
  seeds := hfrontier.seeds
  ordered := by
    have hordered := hfrontier.ordered
    rw [hqueue, List.pairwise_cons] at hordered
    exact hordered.2
  near := by
    intro x hx y hy
    exact hfrontier.near x hx y (by rw [hqueue]; exact List.mem_cons_of_mem _ hy)
  closed := by
    intro x hx hlt
    rcases List.mem_append.mp hx with hx | hx
    · exact hfrontier.closed x hx hlt
    · rw [List.mem_singleton] at hx
      subst hx
      omega
  edges := by
    intro e
    rw [hfrontier.edges]
    constructor
    · rintro ⟨x, hx, hlt, he⟩
      exact ⟨x, List.mem_append_left _ hx, hlt, he⟩
    · rintro ⟨x, hx, hlt, he⟩
      rcases List.mem_append.mp hx with hx | hx
      · exact ⟨x, hx, hlt, he⟩
      · rw [List.mem_singleton] at hx
        subst hx
        omega
  edges_nodup := hfrontier.edges_nodup

theorem Frontier.grow {found : List (Visit ν α)} {after : Search ν ε α}
    (hfrontier : network.Frontier seeds depth expanded search)
    (hqueue : search.queue = current :: queue) (hdepth : current.distance < depth)
    (hgrown : network.Grown current (network.incident current.id)
      { search with queue := queue } after found) :
    network.Frontier seeds depth (expanded ++ [current]) after := by
  have hcurrentQueue : current ∈ search.queue := by
    rw [hqueue]
    exact List.mem_cons_self
  have hcurrent := hfrontier.mem_visited_of_mem_queue hcurrentQueue
  have hvisited : after.visited = search.visited ++ found := hgrown.visited
  have hafter : after.queue = queue ++ found := hgrown.queue
  have hrest : ∀ y ∈ queue, y ∈ search.queue := fun y hy => by
    rw [hqueue]
    exact List.mem_cons_of_mem _ hy
  have hordered := hfrontier.ordered
  rw [hqueue, List.pairwise_cons] at hordered
  refine
    { split := ?_
      nodup := ?_
      accepted := ?_
      sound := ?_
      seeds := ?_
      ordered := ?_
      near := ?_
      closed := ?_
      edges := ?_
      edges_nodup := hgrown.edges_nodup hfrontier.edges_nodup }
  · have hsplit := hfrontier.split.append_right found
    rw [hqueue] at hsplit
    rw [hvisited, hafter]
    simpa using hsplit
  · rw [hvisited, List.map_append, List.nodup_append]
    refine ⟨hfrontier.nodup, hgrown.nodup, ?_⟩
    intro v hv w hw heq
    obtain ⟨x, hx, rfl⟩ := List.mem_map.mp hw
    exact hgrown.fresh x hx (by rwa [← heq])
  · intro x hx
    rw [hvisited, List.mem_append] at hx
    rcases hx with hx | hx
    · exact hfrontier.accepted x hx
    · exact hgrown.admitted x hx
  · intro x hx
    rw [hvisited, List.mem_append] at hx
    rcases hx with hx | hx
    · exact hfrontier.sound x hx
    · obtain ⟨e, he, hfar⟩ := hgrown.reached x hx
      have haccept := hgrown.admitted x hx
      rw [hgrown.distance x hx, ← hfar]
      refine ⟨hdepth, .step (hfrontier.sound current hcurrent).2 he ?_⟩
      rw [hfar, haccept]
      rfl
  · intro v hv haccept
    obtain ⟨x, hx, hid, hzero⟩ := hfrontier.seeds v hv haccept
    refine ⟨x, ?_, hid, hzero⟩
    rw [hvisited]
    exact List.mem_append_left _ hx
  · rw [hafter, List.pairwise_append]
    refine ⟨hordered.2, ?_, ?_⟩
    · apply List.pairwise_of_forall_mem_list
      intro x hx y hy
      have hxd := hgrown.distance x hx
      have hyd := hgrown.distance y hy
      omega
    · intro x hx y hy
      rw [hgrown.distance y hy]
      exact hfrontier.near x (hfrontier.mem_visited_of_mem_queue (hrest x hx)) current
        hcurrentQueue
  · intro x hx y hy
    have hle : x.distance ≤ current.distance + 1 := by
      rw [hvisited, List.mem_append] at hx
      rcases hx with hx | hx
      · exact hfrontier.near x hx current hcurrentQueue
      · have hxd := hgrown.distance x hx
        omega
    have hge : current.distance ≤ y.distance := by
      rw [hafter, List.mem_append] at hy
      rcases hy with hy | hy
      · exact hordered.1 y hy
      · have hyd := hgrown.distance y hy
        omega
    omega
  · intro x hx hlt e he haccept
    rcases List.mem_append.mp hx with hx | hx
    · obtain ⟨y, hy, hid, hle⟩ := hfrontier.closed x hx hlt e he haccept
      refine ⟨y, ?_, hid, hle⟩
      rw [hvisited]
      exact List.mem_append_left _ hy
    · rw [List.mem_singleton] at hx
      subst hx
      obtain ⟨y, hy, hid⟩ := List.mem_map.mp (hgrown.covered e he haccept)
      refine ⟨y, hy, hid, ?_⟩
      rw [hvisited, List.mem_append] at hy
      rcases hy with hy | hy
      · exact hfrontier.near y hy x hcurrentQueue
      · have hyd := hgrown.distance y hy
        omega
  · intro e
    rw [hgrown.edges]
    constructor
    · rintro (he | he)
      · obtain ⟨x, hx, hlt, hincident⟩ := (hfrontier.edges e).mp he
        exact ⟨x, List.mem_append_left _ hx, hlt, hincident⟩
      · exact ⟨current, by simp, hdepth, he⟩
    · rintro ⟨x, hx, hlt, he⟩
      rcases List.mem_append.mp hx with hx | hx
      · exact .inl ((hfrontier.edges e).mpr ⟨x, hx, hlt, he⟩)
      · rw [List.mem_singleton] at hx
        subst hx
        exact .inr he

theorem Frontier.unshadowed (hfrontier : network.Frontier seeds depth expanded search) (v : ν) :
    ∀ e ∈ network.incident v, ∀ f, f ∈ search.edges ∨ f ∈ network.incident v →
      network.key f = network.key e → f = e := by
  intro e he f hf hkey
  rcases hf with hf | hf
  · obtain ⟨x, -, -, hincident⟩ := (hfrontier.edges f).mp hf
    exact network.key_injective hincident he hkey
  · exact network.key_injective hf he hkey

/-! ## Exactness -/

theorem Frontier.visited_of_within (hfrontier : network.Frontier seeds depth expanded search)
    (hempty : search.queue = []) (hwithin : network.Within seeds d v) (hd : d ≤ depth) :
    ∃ x ∈ search.visited, x.id = v ∧ x.distance ≤ d := by
  induction hwithin with
  | seed hseed haccept =>
      obtain ⟨x, hx, hid, hzero⟩ := hfrontier.seeds _ hseed haccept
      exact ⟨x, hx, hid, by omega⟩
  | @step d v e _ hedge haccept ih =>
      obtain ⟨x, hx, rfl, hle⟩ := ih (by omega)
      have hexpanded : x ∈ expanded := by
        have hmem := hfrontier.split.mem_iff.mp hx
        rwa [hempty, List.append_nil] at hmem
      obtain ⟨y, hy, hid, hdistance⟩ := hfrontier.closed x hexpanded (by omega) e hedge haccept
      exact ⟨y, hy, hid, by omega⟩

theorem Frontier.mem_visited_iff (hfrontier : network.Frontier seeds depth expanded search)
    (hempty : search.queue = []) (v : ν) :
    v ∈ search.visited.map Visit.id ↔ network.Within seeds depth v := by
  constructor
  · intro hv
    obtain ⟨x, hx, rfl⟩ := List.mem_map.mp hv
    have hsound := hfrontier.sound x hx
    exact hsound.2.mono hsound.1
  · intro hwithin
    obtain ⟨x, hx, rfl, -⟩ := hfrontier.visited_of_within hempty hwithin (Nat.le_refl _)
    exact List.mem_map_of_mem hx

theorem Frontier.mem_edges_iff (hfrontier : network.Frontier seeds depth expanded search)
    (hempty : search.queue = []) (e : ε) : e ∈ search.edges ↔ network.Crossed seeds depth e := by
  rw [hfrontier.edges]
  constructor
  · rintro ⟨x, hx, hlt, he⟩
    have hvisited := hfrontier.split.mem_iff.mpr (List.mem_append_left search.queue hx)
    exact ⟨x.id, x.distance, hlt, (hfrontier.sound x hvisited).2, he⟩
  · rintro ⟨v, d, hlt, hwithin, he⟩
    obtain ⟨x, hx, rfl, hle⟩ := hfrontier.visited_of_within hempty hwithin (by omega)
    have hmem := hfrontier.split.mem_iff.mp hx
    rw [hempty, List.append_nil] at hmem
    exact ⟨x, hmem, by omega, he⟩

theorem ncard_eq_length {σ : Type} {items : List σ} (hnodup : items.Nodup) {p : σ → Prop}
    (hmem : ∀ item, item ∈ items ↔ p item) : {item | p item}.ncard = items.length := by
  classical
  have hset : {item | p item} = (items.toFinset : Set σ) := by
    ext item
    simp [hmem]
  rw [hset, Set.ncard_coe_finset, List.toFinset_card_of_nodup hnodup]

theorem Frontier.ncard_within (hfrontier : network.Frontier seeds depth expanded search)
    (hempty : search.queue = []) :
    {v | network.Within seeds depth v}.ncard = search.visited.length := by
  rw [ncard_eq_length hfrontier.nodup (hfrontier.mem_visited_iff hempty), List.length_map]

theorem Frontier.ncard_crossed (hfrontier : network.Frontier seeds depth expanded search)
    (hempty : search.queue = []) :
    {e | network.Crossed seeds depth e}.ncard = search.edges.length :=
  ncard_eq_length (.of_map _ hfrontier.edges_nodup) (hfrontier.mem_edges_iff hempty)

/-! ## The queue runs empty -/

variable [DecidableEq ν] [DecidableEq κ]

theorem Frontier.expand (hfrontier : network.Frontier seeds depth expanded search)
    (hqueue : search.queue = current :: queue) :
    network.Frontier seeds depth (expanded ++ [current]) (network.expand depth search) := by
  unfold Network.expand
  simp only [hqueue]
  by_cases hdepth : depth ≤ current.distance
  · rw [if_pos hdepth]
    exact hfrontier.skip hqueue hdepth
  · rw [if_neg hdepth]
    obtain ⟨found, hgrown⟩ := network.exists_grown_foldl current { search with queue := queue }
      (network.incident current.id) (hfrontier.unshadowed current.id)
    exact hfrontier.grow hqueue (by omega) hgrown

theorem length_expand (hfrontier : network.Frontier seeds depth expanded search)
    (hqueue : search.queue = current :: queue) :
    (network.expand depth search).visited.length + search.queue.length =
      search.visited.length + (network.expand depth search).queue.length + 1 := by
  unfold Network.expand
  simp only [hqueue]
  by_cases hdepth : depth ≤ current.distance
  · simp only [if_pos hdepth, List.length_cons]
    omega
  · rw [if_neg hdepth]
    obtain ⟨found, hgrown⟩ := network.exists_grown_foldl current { search with queue := queue }
      (network.incident current.id) (hfrontier.unshadowed current.id)
    rw [hgrown.visited, hgrown.queue]
    simp only [List.length_append, List.length_cons]
    omega

/-- With fuel for every node that may be visited, the search ends with an empty queue. -/
theorem Frontier.run (hfrontier : network.Frontier seeds depth expanded search) {nodes : List ν}
    (hnodes : ∀ v, (network.accept v).isSome = true → v ∈ nodes) {fuel : ℕ}
    (hfuel : nodes.length + search.queue.length ≤ fuel + search.visited.length) :
    (network.run depth fuel search).queue = [] ∧
      ∃ expanded', network.Frontier seeds depth expanded' (network.run depth fuel search) := by
  induction fuel generalizing expanded search with
  | zero =>
      have hsubset : search.visited.map Visit.id ⊆ nodes := by
        intro v hv
        obtain ⟨x, hx, rfl⟩ := List.mem_map.mp hv
        apply hnodes
        rw [hfrontier.accepted x hx]
        rfl
      have hlength := (hfrontier.nodup.subperm hsubset).length_le
      rw [List.length_map] at hlength
      refine ⟨List.eq_nil_of_length_eq_zero ?_, expanded, hfrontier⟩
      show search.queue.length = 0
      omega
  | succ fuel ih =>
      rw [Network.run]
      cases hqueue : search.queue with
      | nil => exact ⟨hqueue, expanded, hfrontier⟩
      | cons current queue =>
          have hlength := length_expand hfrontier hqueue
          apply ih (hfrontier.expand hqueue)
          omega

/-! ## A search only grows -/

structure Precedes (search after : Search ν ε α) : Prop where
  visited : search.visited <+: after.visited
  edges : search.edges <+: after.edges

omit [DecidableEq ν] [DecidableEq κ] in
theorem Precedes.refl (search : Search ν ε α) : Precedes search search :=
  ⟨List.prefix_rfl, List.prefix_rfl⟩

omit [DecidableEq ν] [DecidableEq κ] in
theorem Precedes.trans {first second third : Search ν ε α} (hfirst : Precedes first second)
    (hsecond : Precedes second third) : Precedes first third :=
  ⟨hfirst.visited.trans hsecond.visited, hfirst.edges.trans hsecond.edges⟩

omit [DecidableEq ν] in
theorem prefix_recordEdge (network : Network ν ε κ α) (edges : List ε) (edge : ε) :
    edges <+: network.recordEdge edges edge := by
  unfold recordEdge
  by_cases hmem : network.key edge ∈ edges.map network.key
  · rw [if_pos hmem]
  · rw [if_neg hmem]
    exact List.prefix_append _ _

theorem precedes_meet (network : Network ν ε κ α) (current : Visit ν α)
    (search : Search ν ε α) (edge : ε) :
    Precedes search (network.meet current search edge) := by
  constructor
  · obtain hsame | ⟨value, -, hvisited⟩ := network.visited_meet current search edge
    · rw [hsame]
    · rw [hvisited]
      exact List.prefix_append _ _
  · rw [edges_meet]
    exact prefix_recordEdge network search.edges edge

theorem precedes_foldl_meet (network : Network ν ε κ α) (current : Visit ν α)
    (search : Search ν ε α) (edges : List ε) :
    Precedes search (edges.foldl (network.meet current) search) := by
  induction edges generalizing search with
  | nil => exact .refl search
  | cons edge edges ih => exact (precedes_meet network current search edge).trans (ih _)

theorem precedes_expand (network : Network ν ε κ α) (depth : ℕ) (search : Search ν ε α) :
    Precedes search (network.expand depth search) := by
  unfold expand
  cases search.queue with
  | nil => exact .refl search
  | cons current queue =>
      by_cases hdepth : depth ≤ current.distance
      · simp only [if_pos hdepth]
        exact ⟨List.prefix_rfl, List.prefix_rfl⟩
      · simp only [if_neg hdepth]
        have hmet := precedes_foldl_meet network current { search with queue := queue }
          (network.incident current.id)
        exact ⟨hmet.visited, hmet.edges⟩

theorem precedes_run (network : Network ν ε κ α) (depth fuel : ℕ) (search : Search ν ε α) :
    Precedes search (network.run depth fuel search) := by
  induction fuel generalizing search with
  | zero => exact .refl search
  | succ fuel ih =>
      rw [run]
      cases search.queue with
      | nil => exact .refl search
      | cons current queue => exact (precedes_expand network depth search).trans (ih _)

end Network

end BreadthFirst

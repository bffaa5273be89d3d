import Mathlib.Data.List.Forall2
import Mathlib.Data.List.Induction
import Mathlib.Data.List.Perm.Basic

/-!
# Computations which may raise, over lists

Inversion rules for `Except`: what a successful sequence of steps, and a
successful traversal of a list, says about its parts.  The rules are stated
for an arbitrary exception type.
-/

namespace ExceptList

universe u v

variable {ε : Type v} {α β γ : Type u}

variable {next : α → Except ε β} {exception : ε} {first : Except ε α} {items : List α} {σ : Type u}
  {step : σ → α → Except ε σ} {property : ε → Prop}

theorem ok_bind {value : α} :
    (Except.ok value >>= next) = next value := rfl

theorem error_bind :
    (Except.error exception >>= next) = .error exception := rfl

/-- A sequence returns exactly where both of its steps do. -/
theorem bind_eq_ok {result : β} :
    (first >>= next) = .ok result ↔
      ∃ value, first = .ok value ∧ next value = .ok result := by
  cases first with
  | error exception => simp [bind, Except.bind]
  | ok value => simp [bind, Except.bind]

theorem map_eq_ok {f : α → β} {result : β} :
    (f <$> first) = .ok result ↔ ∃ value, first = .ok value ∧ f value = result := by
  cases first with
  | error exception => simp [Functor.map, Except.map]
  | ok value => simp [Functor.map, Except.map]

@[simp] theorem pure_eq_ok {value result : α} :
    (pure value : Except ε α) = .ok result ↔ value = result := by
  simp [pure, Except.pure]

theorem exists_bind_pure_iff {f : α → β} :
    (∃ result, (first >>= fun value => pure (f value)) = .ok result) ↔
      ∃ value, first = .ok value := by
  simp only [bind_eq_ok, pure_eq_ok]
  constructor
  · rintro ⟨result, value, hvalue, -⟩
    exact ⟨value, hvalue⟩
  · rintro ⟨value, hvalue⟩
    exact ⟨f value, value, hvalue, rfl⟩

section Related

variable {R : α → β → Prop} {left : List α} {right : List β}

theorem exists_right_of_mem (hall : List.Forall₂ R left right) {a : α} (hmem : a ∈ left) :
    ∃ b ∈ right, R a b := by
  induction hall with
  | nil => cases hmem
  | cons hhead _ ih =>
      cases List.mem_cons.mp hmem with
      | inl heq =>
          rw [heq]
          exact ⟨_, List.mem_cons_self, hhead⟩
      | inr htail =>
          obtain ⟨b, hb, hrelated⟩ := ih htail
          exact ⟨b, List.mem_cons_of_mem _ hb, hrelated⟩

theorem exists_left_of_mem (hall : List.Forall₂ R left right) {b : β} (hmem : b ∈ right) :
    ∃ a ∈ left, R a b :=
  exists_right_of_mem hall.flip hmem

end Related

theorem foldlM_snoc_eq_ok {item : α} {start last : σ} :
    (items ++ [item]).foldlM step start = .ok last ↔
      ∃ state, items.foldlM step start = .ok state ∧ step state item = .ok last := by
  rw [List.foldlM_append, bind_eq_ok]
  apply exists_congr
  intro state
  cases hstep : step state item <;> simp [hstep, bind, Except.bind, pure, Except.pure]

theorem foldlM_induction {start : σ} {motive : List α → σ → Prop} (hstart : motive [] start)
    (hstep : ∀ taken item state next, motive taken state → step state item = .ok next →
      motive (taken ++ [item]) next) {last : σ} (hrun : items.foldlM step start = .ok last) :
    motive items last := by
  induction items using List.reverseRecOn generalizing last with
  | nil =>
      rw [List.foldlM_nil, pure_eq_ok] at hrun
      rw [← hrun]
      exact hstart
  | append_singleton items item ih =>
      obtain ⟨state, hstate, hlast⟩ := foldlM_snoc_eq_ok.mp hrun
      exact hstep items item state last (ih hstate) hlast

theorem mapM_attach (f : α → Except ε β) (inputs : List α) :
    inputs.attach.mapM (fun input => f input.val) = inputs.mapM f := by
  calc
    inputs.attach.mapM (fun input => f input.val) =
        (inputs.attach.map Subtype.val).mapM f := List.mapM_map.symm
    _ = inputs.mapM f := by rw [List.attach_map_subtype_val]

theorem mapM_eq_ok_iff {f : α → Except ε β} {inputs : List α} {outputs : List β} :
    inputs.mapM f = .ok outputs ↔
      List.Forall₂ (fun input output => f input = .ok output) inputs outputs := by
  induction inputs generalizing outputs with
  | nil =>
      simp only [List.mapM_nil, pure_eq_ok, List.forall₂_nil_left_iff]
      exact eq_comm
  | cons input inputs ih =>
      simp only [List.mapM_cons, bind_eq_ok, pure_eq_ok, List.forall₂_cons_left_iff]
      constructor
      · rintro ⟨head, hhead, tail, htail, rfl⟩
        exact ⟨head, tail, hhead, ih.mp htail, rfl⟩
      · rintro ⟨head, tail, hhead, htail, rfl⟩
        exact ⟨head, hhead, tail, ih.mpr htail, rfl⟩

theorem mapM_eq_ok_self_iff {f : α → Except ε α} {inputs : List α} :
    inputs.mapM f = .ok inputs ↔ ∀ input ∈ inputs, f input = .ok input := by
  rw [mapM_eq_ok_iff]
  exact List.forall₂_same

theorem exists_outputs
    {f : α → Except ε β} {relation : α → β → Prop} {inputs : List α}
    (hstep : ∀ input ∈ inputs, ∃ output, f input = .ok output ∧ relation input output) :
    ∃ outputs, inputs.mapM f = .ok outputs ∧ List.Forall₂ relation inputs outputs := by
  induction inputs with
  | nil => exact ⟨[], rfl, .nil⟩
  | cons input inputs ih =>
      obtain ⟨head, hhead, hrelated⟩ := hstep input List.mem_cons_self
      obtain ⟨tail, htail, hall⟩ := ih fun later hlater =>
        hstep later (List.mem_cons_of_mem _ hlater)
      refine ⟨head :: tail, ?_, .cons hrelated hall⟩
      simp only [List.mapM_cons, bind_eq_ok, pure_eq_ok]
      exact ⟨head, hhead, tail, htail, rfl⟩

theorem exists_mapM_iff {f : α → Except ε β} {inputs : List α} :
    (∃ outputs, inputs.mapM f = .ok outputs) ↔
      ∀ input ∈ inputs, ∃ output, f input = .ok output := by
  constructor
  · intro hrun input hinput
    obtain ⟨outputs, hrun⟩ := hrun
    obtain ⟨output, -, hok⟩ := exists_right_of_mem (mapM_eq_ok_iff.mp hrun) hinput
    exact ⟨output, hok⟩
  · intro hsteps
    obtain ⟨outputs, hrun, -⟩ := exists_outputs fun input hinput =>
      (hsteps input hinput).imp fun output hok => ⟨hok, trivial⟩
    exact ⟨outputs, hrun⟩

section Traversal

variable {f : α → Except ε β} {inputs : List α} {outputs : List β}

theorem exists_input_of_mem
    (hrun : inputs.mapM f = .ok outputs) {output : β} (hmem : output ∈ outputs) :
    ∃ input ∈ inputs, f input = .ok output :=
  exists_left_of_mem (mapM_eq_ok_iff.mp hrun) hmem

theorem exists_input_of_error (hrun : inputs.mapM f = .error exception) :
    ∃ input ∈ inputs, f input = .error exception := by
  induction inputs with
  | nil => cases hrun
  | cons input inputs ih =>
      rw [List.mapM_cons] at hrun
      cases hhead : f input with
      | error raised =>
          rw [hhead, error_bind, Except.error.injEq] at hrun
          exact ⟨input, List.mem_cons_self, by rw [hhead, hrun]⟩
      | ok output =>
          rw [hhead, ok_bind] at hrun
          cases htail : inputs.mapM f with
          | error raised =>
              rw [htail, error_bind, Except.error.injEq] at hrun
              obtain ⟨other, hother, herror⟩ := ih (by rw [htail, hrun])
              exact ⟨other, List.mem_cons_of_mem _ hother, herror⟩
          | ok outputs =>
              rw [htail] at hrun
              cases hrun

theorem exists_output_of_mem
    (hrun : inputs.mapM f = .ok outputs) {input : α} (hmem : input ∈ inputs) :
    ∃ output ∈ outputs, f input = .ok output :=
  exists_right_of_mem (mapM_eq_ok_iff.mp hrun) hmem

theorem map_outputs_eq
    (g : β → γ) (k : α → γ) (hrun : inputs.mapM f = .ok outputs)
    (hstep : ∀ input ∈ inputs, ∀ output, f input = .ok output → g output = k input) :
    outputs.map g = inputs.map k := by
  have hall := mapM_eq_ok_iff.mp hrun
  clear hrun
  induction hall with
  | nil => rfl
  | cons hhead _ ih =>
      have hfirst := hstep _ List.mem_cons_self _ hhead
      have hrest := ih fun input hinput output hok =>
        hstep input (List.mem_cons_of_mem _ hinput) output hok
      simp only [List.map_cons, hfirst, hrest]

theorem mem_zip_outputs_iff
    (hrun : inputs.mapM f = .ok outputs) {input : α} {output : β} :
    (input, output) ∈ inputs.zip outputs ↔ input ∈ inputs ∧ f input = .ok output := by
  have hall := mapM_eq_ok_iff.mp hrun
  clear hrun
  induction hall with
  | nil => simp
  | @cons head found inputs outputs hhead _ ih =>
      rw [List.zip_cons_cons, List.mem_cons, List.mem_cons, Prod.mk.injEq]
      constructor
      · rintro (⟨rfl, rfl⟩ | hmem)
        · exact ⟨.inl rfl, hhead⟩
        · exact ⟨.inr (ih.mp hmem).1, (ih.mp hmem).2⟩
      · rintro ⟨rfl | hmem, hstep⟩
        · rw [hhead, Except.ok.injEq] at hstep
          exact .inl ⟨rfl, hstep.symm⟩
        · exact .inr (ih.mpr ⟨hmem, hstep⟩)

theorem outputs_eq_nil_iff (hrun : inputs.mapM f = .ok outputs) :
    outputs = [] ↔ inputs = [] := by
  have hall := mapM_eq_ok_iff.mp hrun
  cases hall with
  | nil => simp
  | cons _ _ => simp

theorem exists_records
    {δ : Type u} (source : δ → α) (target : δ → β) (hrun : inputs.mapM f = .ok outputs)
    (hstep : ∀ input ∈ inputs, ∀ output, f input = .ok output →
      ∃ record, source record = input ∧ target record = output) :
    ∃ records : List δ, records.map source = inputs ∧ records.map target = outputs := by
  have hall := mapM_eq_ok_iff.mp hrun
  clear hrun
  induction hall with
  | nil => exact ⟨[], rfl, rfl⟩
  | cons hhead _ ih =>
      obtain ⟨record, hsource, htarget⟩ := hstep _ List.mem_cons_self _ hhead
      obtain ⟨records, hsources, htargets⟩ := ih fun input hinput output hok =>
        hstep input (List.mem_cons_of_mem _ hinput) output hok
      refine ⟨record :: records, ?_, ?_⟩
      · rw [List.map_cons, hsource, hsources]
      · rw [List.map_cons, htarget, htargets]

theorem mapM_records
    {δ : Type u} (f : α → Except ε β) (source : δ → α) (target : δ → β) (records : List δ)
    (hstep : ∀ record ∈ records, f (source record) = .ok (target record)) :
    (records.map source).mapM f = .ok (records.map target) := by
  rw [mapM_eq_ok_iff, List.forall₂_map_left_iff, List.forall₂_map_right_iff]
  exact List.forall₂_same.mpr hstep

theorem mapM_map_results (change : β → γ) (f : α → Except ε β) (inputs : List α) :
    inputs.mapM (fun input => change <$> f input) = List.map change <$> inputs.mapM f := by
  induction inputs with
  | nil => rfl
  | cons input inputs ih =>
      rw [List.mapM_cons, List.mapM_cons, ih]
      cases f input with
      | error exception => rfl
      | ok output =>
          cases inputs.mapM f with
          | error exception => rfl
          | ok outputs => rfl

end Traversal

theorem map_fst_filter_zip_outputs {f : α × ℕ → Except ε (Option β)} (keep : α → Bool) {start : ℕ}
    {outputs : List (Option β)} (hrun : (items.zipIdx start).mapM f = .ok outputs)
    (hstep : ∀ entry ∈ items.zipIdx start, ∀ output, f entry = .ok output →
      output.isNone = keep entry.1) :
    ((items.zip outputs).filter fun entry => entry.2.isNone).map Prod.fst =
      items.filter keep := by
  induction items generalizing start outputs with
  | nil => simp
  | cons item items ih =>
      simp only [List.zipIdx_cons, List.mapM_cons, bind_eq_ok, pure_eq_ok] at hrun
      obtain ⟨head, hhead, tail, htail, houtputs⟩ := hrun
      subst houtputs
      have hfirst : head.isNone = keep item :=
        hstep (item, start) (by simp) head hhead
      have hrest := ih htail fun entry hentry output hok =>
        hstep entry (by simp [hentry]) output hok
      simp only [List.zip_cons_cons, List.filter_cons, hfirst]
      by_cases hkeep : keep item = true
      · simp only [hkeep, if_true, List.map_cons, hrest]
      · simp only [hkeep, Bool.false_eq_true, if_false, hrest]

/-! ## What a computation may raise -/

def Raises (property : ε → Prop) (result : Except ε α) : Prop :=
  ∀ exception, result = .error exception → property exception

theorem raises_ok (value : α) :
    Raises property (Except.ok value : Except ε α) := by
  intro exception herror
  cases herror

theorem raises_error (hproperty : property exception) :
    Raises property (Except.error exception : Except ε α) := by
  intro other herror
  cases herror
  exact hproperty

theorem Raises.mono {wider : ε → Prop} {result : Except ε α} (hraises : Raises property result)
    (himplies : ∀ exception, property exception →
      wider exception) : Raises wider result :=
  fun exception herror => himplies exception (hraises exception herror)

theorem raises_bind (hfirst : Raises property first) (hnext : ∀ value, Raises property (next value)) :
    Raises property (first >>= next) := by
  cases first with
  | error exception => exact raises_error (hfirst exception rfl)
  | ok value => exact hnext value

theorem raises_map {f : α → β} (hfirst : Raises property first) :
    Raises property (f <$> first) := by
  cases first with
  | error exception => exact raises_error (hfirst exception rfl)
  | ok value => exact raises_ok _

theorem raises_mapM {f : α → Except ε β} {inputs : List α}
    (hinputs : ∀ input ∈ inputs, Raises property (f input)) :
    Raises property (inputs.mapM f) := by
  induction inputs with
  | nil => exact raises_ok _
  | cons input inputs ih =>
      rw [List.mapM_cons]
      apply raises_bind (hinputs input List.mem_cons_self)
      intro output
      apply raises_bind
      · exact ih fun later hlater => hinputs later (List.mem_cons_of_mem _ hlater)
      · intro outputs
        exact raises_ok _

theorem raises_foldlM (hstep : ∀ state, ∀ item ∈ items, Raises property (step state item))
    (start : σ) : Raises property (items.foldlM step start) := by
  induction items generalizing start with
  | nil => exact raises_ok _
  | cons item items ih =>
      rw [List.foldlM_cons]
      apply raises_bind (hstep start item List.mem_cons_self)
      intro state
      exact ih (fun next later hlater => hstep next later (List.mem_cons_of_mem _ hlater)) state

end ExceptList

/-
RouteConvergence.Proofs.LayerPlaces — what stands at a place of a layer.

A place is given by the keys that lead to it. What is laid over another
place, one whose way parts from these keys, leaves it alone
(`LayerValue.inside_modifyInside_of_diverge`). So of all that is laid over
a layer, one value after the other, the last that concerns a place stands
there in the end: `LayerValue.inside_layOver`.
-/
import RouteConvergence.Settings.Layer

namespace RouteConvergence

namespace LayerValue

/-! ## Fields -/

theorem field_cons (k key : String) (value : LayerValue) (fields : List (String × LayerValue)) :
    field ((k, value) :: fields) key = if k = key then value else field fields key := by
  by_cases hk : k = key
  · simp [field, hk]
  · simp [field, List.lookup_cons, beq_false_of_ne (Ne.symm hk), hk]

theorem field_modifyField_self (key : String) (change : LayerValue → LayerValue) :
    ∀ fields, field (modifyField key change fields) key = change (field fields key)
  | [] => by simp [modifyField, field]
  | (k, v) :: fields => by
    by_cases hk : k = key
    · simp [modifyField, field_cons, hk]
    · simp [modifyField, field_cons, hk, field_modifyField_self key change fields]

theorem field_modifyField_of_ne {key other : String} (hne : other ≠ key)
    (change : LayerValue → LayerValue) :
    ∀ fields, field (modifyField key change fields) other = field fields other
  | [] => by simp [modifyField, field_cons, Ne.symm hne]
  | (k, v) :: fields => by
    by_cases hk : k = key
    · simp [modifyField, field_cons, hk, Ne.symm hne]
    · simp [modifyField, field_cons, hk, field_modifyField_of_ne hne change fields]

/-! ## Places -/

/-- The value some keys lead to; null where there is none. -/
def inside : List String → LayerValue → LayerValue
  | [], value => value
  | key :: keys, value => inside keys (field value.fields key)

/-- Steps part from a way of keys: at some point both go on by a key, and not
by the same. -/
def Diverge : List String → List LayerStep → Prop
  | key :: keys, .field other :: steps => key ≠ other ∨ Diverge keys steps
  | _, _ => False

instance Diverge.decide : ∀ keys steps, Decidable (Diverge keys steps)
  | [], _ | _ :: _, [] | _ :: _, .index _ :: _ => isFalse (by simp [Diverge])
  | key :: keys, .field other :: steps =>
    haveI := Diverge.decide keys steps
    inferInstanceAs (Decidable (key ≠ other ∨ Diverge keys steps))

/-- **A change where it is made.** -/
theorem inside_modifyInside (change : LayerValue → LayerValue) :
    ∀ (keys : List String) (value : LayerValue),
      inside keys (LayerPath.modifyInside change (keys.map .field) value) =
        change (inside keys value)
  | [], _ => rfl
  | key :: keys, value => by
    show inside keys (field (modifyField key _ value.fields) key) = _
    rw [field_modifyField_self, inside_modifyInside change keys]
    rfl

/-- **Frame of a change**: it is not seen at a place whose way it parts from. -/
theorem inside_modifyInside_of_diverge (change : LayerValue → LayerValue) :
    ∀ {keys : List String} {steps : List LayerStep}, Diverge keys steps →
      ∀ value, inside keys (LayerPath.modifyInside change steps value) = inside keys value
  | [], _, h, _ | _ :: _, [], h, _ | _ :: _, .index _ :: _, h, _ => h.elim
  | key :: keys, .field other :: steps, h, value => by
    show inside keys (field (modifyField other _ value.fields) key) = _
    by_cases hkey : key = other
    · subst hkey
      have hrest : Diverge keys steps := h.resolve_left fun hne => hne rfl
      rw [field_modifyField_self, inside_modifyInside_of_diverge change hrest]
      rfl
    · rw [field_modifyField_of_ne hkey]
      rfl

end LayerValue

/-! ## Layers -/

namespace LayerPath

/-- All steps of a place, from the whole layer on. -/
def route (place : LayerPath) : List LayerStep := .field place.key :: place.steps

theorem table_assign (place : LayerPath) (value : LayerValue)
    (layer : List (String × LayerValue)) :
    LayerValue.table (place.assign value layer) =
      modifyInside value.overlay place.route (.table layer) := rfl

end LayerPath

namespace LayerValue

variable {keys : List String} {above : List (String × LayerValue)}

/-- What is laid over a layer beside a place leaves what stands there. -/
theorem inside_layOver_of_diverge
    (hbeside : ∀ f ∈ above, Diverge keys (LayerPath.ofKey f.1).route) :
    ∀ below, inside keys (.table (layOver above below)) = inside keys (.table below) := by
  induction above with
  | nil => exact fun _ => rfl
  | cons f above ih =>
    intro below
    have hrest := ih fun g hg => hbeside g (List.mem_cons_of_mem _ hg)
    show inside keys (.table (layOver above ((LayerPath.ofKey f.1).assign f.2 below))) = _
    rw [hrest, LayerPath.table_assign,
      inside_modifyInside_of_diverge _ (hbeside f List.mem_cons_self)]

/-- **The last word**: of what is laid over a layer, the last value that concerns
a place is laid over what stood there before. -/
theorem inside_layOver {before after : List (String × LayerValue)} {key : String}
    (value : LayerValue) (hkey : (LayerPath.ofKey key).route = keys.map .field)
    (hafter : ∀ f ∈ after, Diverge keys (LayerPath.ofKey f.1).route)
    (below : List (String × LayerValue)) :
    inside keys (.table (layOver (before ++ (key, value) :: after) below)) =
      value.overlay (inside keys (.table (layOver before below))) := by
  have hsplit : layOver (before ++ (key, value) :: after) below =
      layOver after ((LayerPath.ofKey key).assign value (layOver before below)) := by
    rw [layOver, List.foldl_append]
    rfl
  rw [hsplit, inside_layOver_of_diverge hafter, LayerPath.table_assign, hkey,
    inside_modifyInside]

end LayerValue

end RouteConvergence

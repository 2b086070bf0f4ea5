import Mathlib.Data.List.Forall2
import Mathlib.Data.List.Induction
import Mathlib.Data.List.Nodup
/-!
# Lists with one entry for each key

* `put`, `lastOfEach` — entries that are overwritten in place, and what is left of them.
* `put_of_nodup` — what is put takes one place, and no other entry moves or changes.
* `filterMap_find?_of_nodup` — a list with different keys is told by its keys and by look-up.
* `foldl_put` — entries that are put in turn leave the last one of each key.
* `forall₂_lastOfEach` — related lists leave related entries.
-/

namespace SqlUpdate

variable {α β κ κ' : Type} [DecidableEq κ] [DecidableEq κ'] (key : α → κ) (key' : β → κ')

/-- Puts an entry in the place of the one with its key, or at the end. -/
def put (x : α) : List α → List α
  | [] => [x]
  | y :: ys => if key y = key x then x :: ys else y :: put x ys

/-- The last entry of each key, in the order of the first entries. -/
def lastOfEach (l : List α) : List α :=
  (l.map key).eraseDups.filterMap fun k => l.reverse.find? fun x => key x = k

theorem map_key_put (x : α) (l : List α) : (put key x l).map key =
    if key x ∈ l.map key then l.map key else l.map key ++ [key x] := by
  induction l with
  | nil => rfl
  | cons y ys ih =>
    by_cases h : key y = key x
    · simp [put, h]
    · rw [put, if_neg h, List.map_cons, ih, List.map_cons]
      by_cases hx : key x ∈ ys.map key
      · rw [if_pos hx, if_pos (List.mem_cons_of_mem _ hx)]
      · rw [if_neg hx, if_neg (List.not_mem_cons_of_ne_of_not_mem (Ne.symm h) hx)]
        rfl

theorem find?_put (x : α) (l : List α) (k : κ) : (put key x l).find? (fun y => key y = k) =
    if key x = k then some x else l.find? fun y => key y = k := by
  induction l with
  | nil => by_cases hk : key x = k <;> simp [put, hk]
  | cons y ys ih =>
    by_cases h : key y = key x
    · rw [put, if_pos h, List.find?_cons, List.find?_cons, h]
      by_cases hk : key x = k <;> simp [hk]
    · rw [put, if_neg h, List.find?_cons, List.find?_cons, ih]
      by_cases hk : key x = k
      · have hy : key y ≠ k := fun hy => h (hy.trans hk.symm)
        simp [hk, hy]
      · rw [if_neg hk, if_neg hk]

/-- Among entries with different keys, one whose key is there already takes the place of the entry
with that key, and all others stay where they are. -/
theorem put_of_nodup {l : List α} (h : (l.map key).Nodup) (x : α) : put key x l =
    if key x ∈ l.map key then l.map fun y => if key y = key x then x else y else l ++ [x] := by
  induction l with
  | nil => rfl
  | cons y ys ih =>
    obtain ⟨hy, hys⟩ := List.nodup_cons.1 h
    by_cases hk : key y = key x
    · have hothers : ys.map (fun z => if key z = key x then x else z) = ys := by
        refine (List.map_congr_left fun z hz => if_neg fun hzx => ?_).trans (List.map_id ys)
        exact hy (List.mem_map.2 ⟨z, hz, hzx.trans hk.symm⟩)
      simp [put, hk, hothers]
    · have hmem : key x ∈ (y :: ys).map key ↔ key x ∈ ys.map key := by
        simp [Ne.symm hk]
      rw [put, if_neg hk, ih hys, if_congr hmem rfl rfl, List.map_cons, if_neg hk]
      split <;> rfl

/-- Among entries with different keys each is found by its key. -/
theorem find?_of_nodup {l : List α} (h : (l.map key).Nodup) {x : α} (hx : x ∈ l) :
    l.find? (fun y => key y = key x) = some x := by
  obtain ⟨y, hy⟩ : ∃ y, l.find? (fun y => key y = key x) = some y :=
    Option.isSome_iff_exists.1 (List.find?_isSome.2 ⟨x, hx, decide_eq_true rfl⟩)
  have hkey : key y = key x := by simpa using List.find?_some hy
  rw [hy, List.inj_on_of_nodup_map h (List.mem_of_find?_eq_some hy) hx hkey]

theorem filterMap_find?_of_nodup {l : List α} (h : (l.map key).Nodup) :
    (l.map key).filterMap (fun k => l.find? fun x => key x = k) = l := by
  rw [List.filterMap_map]
  exact (List.filterMap_congr fun x hx => find?_of_nodup key h hx).trans List.filterMap_some

theorem eraseDups_concat (ks : List κ) (k : κ) : (ks ++ [k]).eraseDups =
    if k ∈ ks then ks.eraseDups else ks.eraseDups ++ [k] := by
  rw [List.eraseDups_append]
  by_cases h : k ∈ ks
  · simp [List.removeAll, h]
  · simp [List.removeAll, h, List.eraseDups_cons]

/-- What is left of entries that are put in turn: one entry for each key, which is the last one. -/
theorem map_key_foldl_put (l : List α) : (l.foldl (fun ys x => put key x ys) []).map key
    = (l.map key).eraseDups := by
  induction l using List.reverseRecOn with
  | nil => rfl
  | append_singleton l x ih =>
    rw [List.foldl_concat, map_key_put, ih, List.map_append, List.map_singleton, eraseDups_concat]
    simp only [List.mem_eraseDups]

theorem nodup_foldl_put (l : List α) :
    ((l.foldl (fun ys x => put key x ys) []).map key).Nodup := by
  induction l using List.reverseRecOn with
  | nil => exact List.nodup_nil
  | append_singleton l x ih =>
    rw [List.foldl_concat, map_key_put]
    split
    · exact ih
    · rename_i hnew
      exact List.nodup_append.2 ⟨ih, by simp, fun k hk k' hk' heq =>
        hnew (List.mem_singleton.1 hk' ▸ heq ▸ hk)⟩

theorem find?_foldl_put (l : List α) (k : κ) :
    (l.foldl (fun ys x => put key x ys) []).find? (fun x => key x = k)
      = l.reverse.find? fun x => key x = k := by
  induction l using List.reverseRecOn with
  | nil => rfl
  | append_singleton l x ih =>
    rw [List.foldl_concat, find?_put, ih, List.reverse_concat, List.find?_cons]
    by_cases hk : key x = k <;> simp [hk]

theorem foldl_put (l : List α) : l.foldl (fun ys x => put key x ys) [] = lastOfEach key l := by
  rw [← filterMap_find?_of_nodup key (nodup_foldl_put key l), map_key_foldl_put, lastOfEach]
  exact List.filterMap_congr fun k _ => find?_foldl_put key l k

variable {key key'}

/-- Related entries are put in the same places. -/
theorem forall₂_put {R : α → β → Prop}
    (hkey : ∀ x y x' y', R x y → R x' y' → (key x = key x' ↔ key' y = key' y'))
    {x : α} {y : β} (hxy : R x y) {l : List α} {m : List β} (h : List.Forall₂ R l m) :
    List.Forall₂ R (put key x l) (put key' y m) := by
  induction h with
  | nil => exact .cons hxy .nil
  | @cons x' y' l m hxy' hrest ih =>
    have hiff := hkey x' y' x y hxy' hxy
    by_cases hk : key x' = key x
    · rw [put, if_pos hk, put, if_pos (hiff.1 hk)]
      exact .cons hxy hrest
    · rw [put, if_neg hk, put, if_neg fun h => hk (hiff.2 h)]
      exact .cons hxy' ih

theorem forall₂_lastOfEach {R : α → β → Prop}
    (hkey : ∀ x y x' y', R x y → R x' y' → (key x = key x' ↔ key' y = key' y'))
    {l : List α} {m : List β} (h : List.Forall₂ R l m) :
    List.Forall₂ R (lastOfEach key l) (lastOfEach key' m) := by
  rw [← foldl_put, ← foldl_put]
  have hput : Relator.LiftFun (List.Forall₂ R) (Relator.LiftFun R (List.Forall₂ R))
      (fun ys x => put key x ys) (fun zs y => put key' y zs) :=
    fun _ _ hacc _ _ hxy => forall₂_put hkey hxy hacc
  exact List.rel_foldl hput .nil h

end SqlUpdate

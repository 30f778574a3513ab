import ParseRepair.Value

namespace ParseRepair.Value

variable {α : Type} [DecidableEq α]

theorem lookup?_cons (key : List α) (f : List α × Value α) (fields : Fields α) :
    lookup? key (f :: fields) = if f.1 = key then some f.2 else lookup? key fields := by
  unfold lookup?
  by_cases same : f.1 = key
  · rw [List.find?_cons_of_pos (by simpa using same), if_pos same, Option.map_some]
  · rw [List.find?_cons_of_neg (by simpa using same), if_neg same]

theorem put_cons_same (key : List α) (v w : Value α) (fields : Fields α) :
    put key v ((key, w) :: fields) = (key, v) :: fields := by
  rw [put, beq_self_eq_true, if_pos rfl]

theorem put_cons_other {key : List α} (v : Value α) {f : List α × Value α} (other : f.1 ≠ key) (fields : Fields α) :
    put key v (f :: fields) = f :: put key v fields := by
  rw [put, beq_eq_false_iff_ne.mpr other, if_neg Bool.false_ne_true]

theorem lookup?_put (key k : List α) (v : Value α) (fields : Fields α) :
    lookup? key (put k v fields) = if k = key then some v else lookup? key fields := by
  induction fields with
  | nil => exact lookup?_cons key (k, v) []
  | cons f fields ih =>
    by_cases here : f.1 = k
    · obtain ⟨_, w⟩ := f
      cases here
      rw [put_cons_same, lookup?_cons, lookup?_cons]
      split
      · rfl
      · rfl
    · rw [put_cons_other v here, lookup?_cons, lookup?_cons, ih]
      by_cases found : f.1 = key
      · have other : k ≠ key := fun same => here (found.trans same.symm)
        rw [if_pos found, if_neg other, if_pos found]
      · rw [if_neg found, if_neg found]

theorem put_of_new (key : List α) (v : Value α) {fields : Fields α} (new : key ∉ fields.map Prod.fst) :
    put key v fields = fields ++ [(key, v)] := by
  induction fields with
  | nil => rfl
  | cons f fields ih =>
    rw [List.map_cons, List.mem_cons, not_or] at new
    rw [put_cons_other v (fun same => new.1 same.symm), ih new.2, List.cons_append]

theorem ofMembers_eq (members : Fields α) :
    ofMembers members = members.foldl (fun fields m => put m.1 m.2 fields) [] := rfl

theorem ofMembers_of_nodup (fields : Fields α) (distinct : (fields.map Prod.fst).Nodup) :
    ofMembers fields = fields := by
  -- The fields that are there already hold none of the keys that follow.
  have run (done rest : Fields α) (distinct : ((done ++ rest).map Prod.fst).Nodup) :
      rest.foldl (fun fields m => put m.1 m.2 fields) done = done ++ rest := by
    induction rest generalizing done with
    | nil => exact (List.append_nil done).symm
    | cons f rest ih =>
      have new : f.1 ∉ done.map Prod.fst := by
        rw [List.map_append, List.map_cons] at distinct
        exact fun member => (List.nodup_append.mp distinct).2.2 _ member _ List.mem_cons_self rfl
      have next : done ++ f :: rest = (done ++ [f]) ++ rest := by simp
      rw [List.foldl_cons, put_of_new f.1 f.2 new, next]
      exact ih (done ++ [f]) (by rwa [← next])
  rw [ofMembers_eq]
  exact run [] fields distinct

theorem lookup?_ofMembers (key : List α) (members : Fields α) :
    lookup? key (ofMembers members) = lookup? key members.reverse := by
  have run (members : Fields α) :
      lookup? key (members.foldr (fun m fields => put m.1 m.2 fields) []) = lookup? key members := by
    induction members with
    | nil => rfl
    | cons m members ih => rw [List.foldr_cons, lookup?_put, lookup?_cons, ih]
  rw [ofMembers_eq, List.foldl_eq_foldr_reverse]
  exact run members.reverse

theorem lookup?_eq_none {key : List α} {fields : Fields α} (missing : key ∉ fields.map Prod.fst) :
    lookup? key fields = none := by
  induction fields with
  | nil => rfl
  | cons f fields ih =>
    rw [List.map_cons, List.mem_cons, not_or] at missing
    rw [lookup?_cons, if_neg (fun same => missing.1 same.symm), ih missing.2]

theorem lookup?_append {key : List α} {front : Fields α} (missing : key ∉ front.map Prod.fst) (back : Fields α) :
    lookup? key (front ++ back) = lookup? key back := by
  induction front with
  | nil => rfl
  | cons f front ih =>
    rw [List.map_cons, List.mem_cons, not_or] at missing
    rw [List.cons_append, lookup?_cons, if_neg (fun same => missing.1 same.symm), ih missing.2]

theorem lookup?_last {key : List α} {back : Fields α} (missing : key ∉ back.map Prod.fst)
    (front : Fields α) (v : Value α) :
    lookup? key (ofMembers (front ++ (key, v) :: back)) = some v := by
  have turned : (front ++ (key, v) :: back).reverse = back.reverse ++ (key, v) :: front.reverse := by simp
  rw [lookup?_ofMembers, turned, lookup?_append (by simpa using missing), lookup?_cons, if_pos rfl]

theorem lookup?_missing {key : List α} {members : Fields α} (missing : key ∉ members.map Prod.fst) :
    lookup? key (ofMembers members) = none := by
  rw [lookup?_ofMembers]
  exact lookup?_eq_none (by simpa using missing)

end ParseRepair.Value

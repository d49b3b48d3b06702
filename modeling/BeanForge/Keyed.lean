/-!
# Keyed values

Lists of values under keys, in the order in which the keys first came. A value
put under a known key takes the place of the old one.
-/

namespace BeanForge.Keyed

variable {κ ν : Type} [DecidableEq κ]

def put (key : κ) (value : ν) : List (κ × ν) → List (κ × ν)
  | [] => [(key, value)]
  | (k, v) :: rest => if k = key then (k, value) :: rest else (k, v) :: put key value rest

def get? (key : κ) : List (κ × ν) → Option ν
  | [] => none
  | (k, v) :: rest => if k = key then some v else get? key rest

def keys (entries : List (κ × ν)) : List κ :=
  entries.map (·.1)

/-- Put all entries one after the other. -/
def update (entries more : List (κ × ν)) : List (κ × ν) :=
  more.foldl (fun known (key, value) => put key value known) entries

@[simp] theorem update_nil (entries : List (κ × ν)) : update entries [] = entries := rfl

theorem update_concat (entries more : List (κ × ν)) (entry : κ × ν) :
    update entries (more ++ [entry]) = put entry.1 entry.2 (update entries more) := by
  simp [update]

theorem get?_put (key other : κ) (value : ν) (entries : List (κ × ν)) :
    get? other (put key value entries) = if other = key then some value else get? other entries := by
  induction entries with
  | nil =>
    by_cases h : other = key
    · simp [put, get?, h]
    · have h' : ¬key = other := fun e => h e.symm
      simp [put, get?, h, h']
  | cons entry rest ih =>
    obtain ⟨k, v⟩ := entry
    by_cases hk : k = key
    · subst hk
      by_cases h : other = k
      · simp [put, get?, h]
      · have h' : ¬k = other := fun e => h e.symm
        simp [put, get?, h, h']
    · by_cases h : k = other
      · subst h
        simp [put, get?, hk]
      · simp [put, get?, hk, h, ih]

theorem keys_put (key : κ) (value : ν) (entries : List (κ × ν)) :
    keys (put key value entries) = if key ∈ keys entries then keys entries else keys entries ++ [key] := by
  induction entries with
  | nil => simp [put, keys]
  | cons entry rest ih =>
    obtain ⟨k, v⟩ := entry
    by_cases hk : k = key
    · simp [put, keys, hk]
    · have hk' : ¬key = k := fun e => hk e.symm
      simp only [keys] at ih
      simp only [put, hk, if_false, keys, List.map_cons, ih, List.mem_cons, hk', false_or]
      split <;> rename_i h <;> simp [h]

end BeanForge.Keyed

import BeanForge.Keyed
import Mathlib.Data.List.Induction
import Mathlib.Data.List.Nodup

/-!
# Looking keyed values up

Under distinct keys a look-up finds every value, in whatever order the entries come. Of two lists
of entries put one over the other, the later one is asked first.
-/

namespace BeanForge.Keyed

variable {κ ν : Type} [DecidableEq κ]

theorem get?_filter_ne (key other : κ) (entries : List (κ × ν)) :
    get? other (entries.filter (·.1 != key)) =
      if other = key then none else get? other entries := by
  induction entries with
  | nil => simp [get?]
  | cons entry rest ih =>
    obtain ⟨k, v⟩ := entry
    by_cases hk : k = key
    · subst hk
      by_cases h : other = k
      · subst h
        simpa using ih
      · have h' : ¬k = other := fun e => h e.symm
        simp [ih, h, h', get?]
    · by_cases h : k = other
      · subst h
        simp [get?, hk]
      · simp [get?, hk, h, ih]

theorem get?_append (key : κ) (entries more : List (κ × ν)) :
    get? key (entries ++ more) = (get? key entries).or (get? key more) := by
  induction entries with
  | nil => rfl
  | cons entry rest ih =>
    obtain ⟨k, v⟩ := entry
    by_cases hk : k = key
    · simp [get?, hk]
    · simp [get?, hk, ih]

/-- Under a key lies what the first item of that key has. -/
theorem get?_map {α : Type} (key : α → κ) (value : α → ν) (wanted : κ) (items : List α) :
    get? wanted (items.map fun item => (key item, value item)) =
      (items.find? fun item => key item == wanted).map value := by
  induction items with
  | nil => rfl
  | cons item rest ih =>
    by_cases h : key item = wanted
    · simp [get?, h]
    · simp [get?, h, ih]

/-- A filter by keys keeps all that is found under a key that passes. -/
theorem get?_filter_of_pos {p : κ → Bool} {key : κ} (h : p key = true) (entries : List (κ × ν)) :
    get? key (entries.filter fun entry => p entry.1) = get? key entries := by
  induction entries with
  | nil => rfl
  | cons entry rest ih =>
    obtain ⟨k, v⟩ := entry
    by_cases hk : k = key
    · subst hk
      simp [get?, h]
    · by_cases hp : p k = true
      · simp [get?, hk, hp, ih]
      · simp [get?, hk, hp, ih]

theorem mem_of_get? {key : κ} {value : ν} {entries : List (κ × ν)}
    (h : get? key entries = some value) : (key, value) ∈ entries := by
  induction entries with
  | nil => simp [get?] at h
  | cons entry rest ih =>
    obtain ⟨k, v⟩ := entry
    by_cases hk : k = key
    · simp only [get?, if_pos hk, Option.some.injEq] at h
      simp [hk, h]
    · simp only [get?, if_neg hk] at h
      exact List.mem_cons_of_mem _ (ih h)

/-- A value under a key that the first entries lack is put behind them. -/
theorem put_append {key : κ} {value : ν} {entries : List (κ × ν)} (h : get? key entries = none)
    (rest : List (κ × ν)) :
    put key value (entries ++ rest) = entries ++ put key value rest := by
  induction entries with
  | nil => rfl
  | cons entry others ih =>
    obtain ⟨k, v⟩ := entry
    by_cases hk : k = key
    · simp [get?, hk] at h
    · simp only [get?, if_neg hk] at h
      simp [put, hk, ih h]

theorem put_of_get?_eq_none {key : κ} {value : ν} {entries : List (κ × ν)}
    (h : get? key entries = none) : put key value entries = entries ++ [(key, value)] := by
  have hput : put key value (entries ++ []) = entries ++ put key value [] := put_append h []
  rwa [List.append_nil] at hput

theorem put_append_self {key : κ} {value : ν} {entries : List (κ × ν)} (old : ν)
    (h : get? key entries = none) :
    put key value (entries ++ [(key, old)]) = entries ++ [(key, value)] := by
  rw [put_append h, put, if_pos rfl]

theorem get?_eq_none_iff {key : κ} {entries : List (κ × ν)} :
    get? key entries = none ↔ key ∉ keys entries := by
  induction entries with
  | nil => simp [get?, keys]
  | cons entry rest ih =>
    obtain ⟨k, v⟩ := entry
    by_cases hk : k = key
    · simp [get?, keys, hk]
    · rw [get?, if_neg hk, ih]
      simp [keys, Ne.symm hk]

/-! Distinct keys -/

theorem get?_eq_some_iff {entries : List (κ × ν)} (h : (keys entries).Nodup) {key : κ}
    {value : ν} : get? key entries = some value ↔ (key, value) ∈ entries := by
  refine ⟨mem_of_get?, fun hmem => ?_⟩
  cases hget : get? key entries with
  | none => exact absurd (List.mem_map_of_mem hmem) (get?_eq_none_iff.1 hget)
  | some other =>
    have hsame : (key, other) = (key, value) :=
      List.inj_on_of_nodup_map h (mem_of_get? hget) hmem rfl
    cases hsame
    rfl

theorem get?_perm {entries more : List (κ × ν)} (hperm : entries.Perm more)
    (h : (keys entries).Nodup) (key : κ) : get? key entries = get? key more := by
  have hmore : (keys more).Nodup := (hperm.map _).nodup_iff.1 h
  apply Option.ext
  intro value
  rw [get?_eq_some_iff h, get?_eq_some_iff hmore, hperm.mem_iff]

/-! Entries over others -/

theorem nodup_keys_put {entries : List (κ × ν)} (h : (keys entries).Nodup) (key : κ) (value : ν) :
    (keys (put key value entries)).Nodup := by
  rw [keys_put]
  split
  · exact h
  · rename_i hnew
    exact List.nodup_append.2 ⟨h, List.nodup_singleton key, fun k hk l hl e =>
      hnew (List.mem_singleton.1 hl ▸ e ▸ hk)⟩

theorem nodup_keys_update {entries : List (κ × ν)} (h : (keys entries).Nodup)
    (more : List (κ × ν)) : (keys (update entries more)).Nodup := by
  induction more generalizing entries with
  | nil => exact h
  | cons entry rest ih => exact ih (nodup_keys_put h entry.1 entry.2)

theorem update_of_nodup {entries more : List (κ × ν)} (h : (keys (entries ++ more)).Nodup) :
    update entries more = entries ++ more := by
  induction more generalizing entries with
  | nil => rw [update_nil, List.append_nil]
  | cons entry rest ih =>
    have hnew : entry.1 ∉ keys entries := by
      intro hmem
      rw [keys, List.map_append] at h
      exact (List.nodup_append.1 h).2.2 _ hmem _ (by simp) rfl
    have hrest : (keys ((entries ++ [entry]) ++ rest)).Nodup := by simpa using h
    calc update entries (entry :: rest) = update (put entry.1 entry.2 entries) rest := rfl
      _ = entries ++ entry :: rest := by
        rw [put_of_get?_eq_none (get?_eq_none_iff.2 hnew), ih hrest, List.append_assoc,
          List.singleton_append]

/-- Put together from nothing, entries under distinct keys stay as they are. -/
theorem update_nil_of_nodup {entries : List (κ × ν)} (h : (keys entries).Nodup) :
    update [] entries = entries :=
  update_of_nodup (by rwa [List.nil_append])

/-- Of two later entries under one key the last one is found. -/
theorem get?_update_over (key : κ) (entries more : List (κ × ν)) :
    get? key (update entries more) = (get? key (update [] more)).or (get? key entries) := by
  induction more using List.reverseRecOn with
  | nil => rfl
  | append_singleton rest entry ih =>
    rw [update_concat, update_concat, get?_put, get?_put, ih]
    split_ifs <;> rfl

theorem get?_update {more : List (κ × ν)} (h : (keys more).Nodup) (entries : List (κ × ν))
    (key : κ) : get? key (update entries more) = (get? key more).or (get? key entries) := by
  rw [get?_update_over, update_nil_of_nodup h]

end BeanForge.Keyed

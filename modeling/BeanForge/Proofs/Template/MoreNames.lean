import BeanForge.Proofs.Template.Missing
import Mathlib.Data.List.Forall2

/-!
# Scopes with more names

A scope beside one that was handed further variables. Under the plain names that are called steady
both know the same; under all others the second may know a value where the first has none.
-/

namespace BeanForge.Template

variable {steady : String → Bool}

/-! Names with values -/

structure Named (steady : String → Bool) (a b : String × Value) : Prop where
  name : b.1 = a.1
  value : a.2.FilledBy b.2
  same : steady (Text.plainName a.1) = true → b.2 = a.2

theorem Named.refl (a : String × Value) : Named steady a a :=
  ⟨rfl, .refl _, fun _ => rfl⟩

/-- What two frames know under a plain name; one without a value is still to get it. -/
structure Known (steady : String → Bool) (a b : String × Option Value) : Prop where
  name : b.1 = a.1
  value : Option.Rel Value.FilledBy a.2 b.2
  same : steady a.1 = true → b.2 = a.2

theorem Known.refl (a : String × Option Value) : Known steady a a := by
  refine ⟨rfl, ?_, fun _ => rfl⟩
  cases a.2 with
  | none => exact .none
  | some v => exact .some (.refl v)

/-- The values of a variable among those handed in: another name is no name that all templates
know. -/
inductive Supplied (steady : String → Bool) (name : String) : Option Value → Option Value → Prop where
  | same (value : Option Value) : Supplied steady name value value
  | added (w : Value) (changing : steady (Text.plainName name) = false)
      (new : Value.global? name = none) : Supplied steady name none (some w)
  | filled (message : String) (w : Value) (changing : steady (Text.plainName name) = false) :
      Supplied steady name (some (.absent message false)) (some w)

theorem Named.supplied {name : String} {v w : Value} (h : Named steady (name, v) (name, w)) :
    Supplied steady name (some v) (some w) := by
  by_cases hsame : v = w
  · exact hsame ▸ .same _
  · rcases h.value with heq | ⟨message, hv⟩
    · exact absurd heq hsame
    · obtain rfl : v = .absent message false := hv
      refine .filled message w ?_
      cases hsteady : steady (Text.plainName name) with
      | false => rfl
      | true => exact absurd (h.same hsteady).symm hsame

/-- Bindings of which the second have more values. -/
def Supplies (steady : String → Bool) (bindings more : List (String × Value)) : Prop :=
  ∀ name, Supplied steady name (Keyed.get? name bindings) (Keyed.get? name more)

theorem Supplies.put {bindings more : List (String × Value)} (h : Supplies steady bindings more)
    {name : String} {v w : Value} (hnamed : Named steady (name, v) (name, w)) :
    Supplies steady (Keyed.put name v bindings) (Keyed.put name w more) := by
  intro other
  rw [Keyed.get?_put, Keyed.get?_put]
  by_cases hother : other = name
  · subst hother
    rw [if_pos rfl, if_pos rfl]
    exact hnamed.supplied
  · rw [if_neg hother, if_neg hother]
    exact h other

theorem Supplies.update {bindings more entries entries' : List (String × Value)}
    (h : Supplies steady bindings more) (hentries : List.Forall₂ (Named steady) entries entries') :
    Supplies steady (Keyed.update bindings entries) (Keyed.update more entries') := by
  induction hentries generalizing bindings more with
  | nil => exact h
  | @cons a b _ _ hnamed _ ih =>
    obtain ⟨name, v⟩ := a
    obtain ⟨other, w⟩ := b
    obtain rfl : other = name := hnamed.name
    exact ih (h.put hnamed)

/-! Frames -/

structure Frame.FilledBy (steady : String → Bool) (f f' : Frame) : Prop where
  touched : f'.touched = f.touched
  values : List.Forall₂ (Known steady) f.values f'.values

theorem get?_of_known {values values' : List (String × Option Value)}
    (h : List.Forall₂ (Known steady) values values') (plain : String) :
    Option.Rel (fun o o' => Known steady (plain, o) (plain, o')) (Keyed.get? plain values)
      (Keyed.get? plain values') := by
  induction h with
  | nil => exact .none
  | @cons a b _ _ hknown _ ih =>
    obtain ⟨key, o⟩ := a
    obtain ⟨other, o'⟩ := b
    obtain rfl : other = key := hknown.name
    by_cases hplain : other = plain
    · subst hplain
      simpa only [Keyed.get?, if_true] using .some hknown
    · simpa only [Keyed.get?, if_neg hplain] using ih

theorem put_known {values values' : List (String × Option Value)}
    (h : List.Forall₂ (Known steady) values values') {plain : String} {o o' : Option Value}
    (hknown : Known steady (plain, o) (plain, o')) :
    List.Forall₂ (Known steady) (Keyed.put plain o values) (Keyed.put plain o' values') := by
  induction h with
  | nil => exact .cons hknown .nil
  | @cons a b _ _ hfirst hrest ih =>
    obtain ⟨key, _⟩ := a
    obtain ⟨other, _⟩ := b
    obtain rfl : other = key := hfirst.name
    by_cases hplain : other = plain
    · subst hplain
      simpa only [Keyed.put, if_true] using .cons hknown hrest
    · simpa only [Keyed.put, if_neg hplain] using .cons hfirst ih

theorem Named.known {a b : String × Value} (h : Named steady a b) :
    Known steady (Text.plainName a.1, some a.2) (Text.plainName b.1, some b.2) :=
  ⟨congrArg Text.plainName h.name, .some h.value, fun hsteady => congrArg some (h.same hsteady)⟩

theorem known?_of_filledBy {fs fs' : List Frame} (h : List.Forall₂ (Frame.FilledBy steady) fs fs')
    (plain : String) :
    Option.Rel (fun o o' => Known steady (plain, o) (plain, o')) (Scope.known? plain fs)
      (Scope.known? plain fs') := by
  induction h with
  | nil => exact .none
  | @cons f f' _ _ hframe _ ih =>
    have hget := get?_of_known hframe.values plain
    unfold Scope.known?
    generalize Keyed.get? plain _ = o at hget ⊢
    generalize Keyed.get? plain _ = o' at hget ⊢
    cases hget with
    | none => exact ih
    | some hknown => exact .some hknown

theorem spelled_of_filledBy {f f' : Frame} (h : f.FilledBy steady f') :
    List.Forall₂ (Named steady) (Scope.spelled f) (Scope.spelled f') := by
  unfold Scope.spelled
  rw [h.touched]
  induction f.touched with
  | nil => exact .nil
  | cons name rest ih =>
    have hget := get?_of_known h.values (Text.plainName name)
    rw [List.filterMap_cons, List.filterMap_cons]
    generalize Keyed.get? (Text.plainName name) _ = o at hget ⊢
    generalize Keyed.get? (Text.plainName name) _ = o' at hget ⊢
    cases hget with
    | none => exact ih
    | some hknown =>
      obtain ⟨_, hvalue, hsame⟩ := hknown
      cases hvalue with
      | none => exact ih
      | some hfilled =>
        exact .cons ⟨rfl, hfilled, fun hsteady => Option.some.inj (hsame hsteady)⟩ ih

/-! Scopes -/

structure Scope.FilledBy (steady : String → Bool) (s s' : Scope) : Prop where
  frames : List.Forall₂ (Frame.FilledBy steady) s.frames s'.frames
  bindings : Supplies steady s.bindings s'.bindings
  label : s'.label = s.label

namespace Scope.FilledBy

variable {s s' : Scope}

theorem value (h : s.FilledBy steady s') (name : String) :
    Named steady (name, s.value name) (name, s'.value name) := by
  have hknown := known?_of_filledBy h.frames (Text.plainName name)
  have hsupplied := h.bindings name
  unfold Scope.value Scope.value?
  generalize known? (Text.plainName name) _ = o at hknown ⊢
  generalize known? (Text.plainName name) _ = o' at hknown ⊢
  cases hknown with
  | none =>
    generalize Keyed.get? name _ = b at hsupplied ⊢
    generalize Keyed.get? name _ = b' at hsupplied ⊢
    cases hsupplied with
    | same value => exact .refl _
    | added w changing new =>
      rw [new]
      exact ⟨rfl, .inr ⟨_, rfl⟩, fun hsteady => absurd (hsteady.symm.trans changing) nofun⟩
    | filled message w changing =>
      exact ⟨rfl, .inr ⟨_, rfl⟩, fun hsteady => absurd (hsteady.symm.trans changing) nofun⟩
  | some hfound =>
    obtain ⟨_, hvalue, hsame⟩ := hfound
    cases hvalue with
    | none => exact .refl _
    | some hfilled => exact ⟨rfl, hfilled, fun hsteady => Option.some.inj (hsame hsteady)⟩

theorem touches (h : s.FilledBy steady s') (name : String) : s'.touches name = s.touches name := by
  have hframes := h.frames
  unfold Scope.touches
  generalize s.frames = fs at hframes ⊢
  generalize s'.frames = fs' at hframes ⊢
  induction hframes with
  | nil => rfl
  | cons hframe _ ih => rw [List.any_cons, List.any_cons, hframe.touched, ih]

theorem enter (h : s.FilledBy steady s') {given given' : List (String × Value)}
    (hgiven : List.Forall₂ (Named steady) given given') (body : List Part) :
    (s.enter given body).FilledBy steady (s'.enter given' body) := by
  have hkeys : Keyed.keys given' = Keyed.keys given := by
    induction hgiven with
    | nil => rfl
    | cons hnamed _ ih => exact congrArg₂ List.cons hnamed.name ih
  have hvalues : List.Forall₂ (Known steady) (plainValues given) (plainValues given') :=
    List.forall₂_map_left_iff.2 (List.forall₂_map_right_iff.2 (hgiven.imp fun _ _ => Named.known))
  have hpending : (fun name => !s'.touches name) = fun name => !s.touches name :=
    funext fun name => congrArg _ (h.touches name)
  refine ⟨.cons ⟨?_, ?_⟩ h.frames, h.bindings, h.label⟩
  · show Keyed.keys given' ++ Part.touchedIn body = Keyed.keys given ++ Part.touchedIn body
    rw [hkeys]
  · show List.Forall₂ (Known steady) (plainValues given ++ _) (plainValues given' ++ _)
    rw [hkeys, hpending]
    exact List.rel_append hvalues (List.forall₂_same.2 fun _ _ => .refl _)

theorem assign (h : s.FilledBy steady s') {a b : String × Value} (hnamed : Named steady a b) :
    (s.assign a.1 a.2).FilledBy steady (s'.assign b.1 b.2) := by
  refine ⟨?_, h.bindings, h.label⟩
  have hframes := h.frames
  show List.Forall₂ _ (assignIn _ _ s.frames) (assignIn _ _ s'.frames)
  generalize s.frames = fs at hframes ⊢
  generalize s'.frames = fs' at hframes ⊢
  cases hframes with
  | nil => exact .nil
  | cons hframe hrest =>
    refine .cons ⟨hframe.touched, ?_⟩ hrest
    have hknown := hnamed.known
    rw [hnamed.name] at hknown ⊢
    exact put_known hframe.values hknown

theorem assignAll (h : s.FilledBy steady s') {given given' : List (String × Value)}
    (hgiven : List.Forall₂ (Named steady) given given') :
    (s.assignAll given).FilledBy steady (s'.assignAll given') := by
  induction hgiven generalizing s s' with
  | nil => exact h
  | cons hnamed _ ih => exact ih (h.assign hnamed)

theorem visible (h : s.FilledBy steady s') : Supplies steady s.visible s'.visible := by
  have hframes := h.frames
  unfold Scope.visible
  rw [List.foldl_reverse, List.foldl_reverse]
  generalize s.frames = fs at hframes ⊢
  generalize s'.frames = fs' at hframes ⊢
  induction hframes with
  | nil => exact h.bindings
  | cons hframe _ ih => exact ih.update (spelled_of_filledBy hframe)

end Scope.FilledBy

end BeanForge.Template

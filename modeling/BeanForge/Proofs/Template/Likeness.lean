import BeanForge.Template.Tree

/-!
# Likeness of parsed templates

A check that two parsed templates are the same, which can be computed. It knows the forms of
templates whose only literals are texts, and takes all others to be different.
-/

namespace BeanForge.Template

namespace Expr

mutual

def alike : Expr → Expr → Bool
  | literal (.string s), f => match f with
    | literal (.string t) => s == t
    | _ => false
  | name s, f => match f with
    | name t => s == t
    | _ => false
  | member owner word, f => match f with
    | member owner' word' => alike owner owner' && word == word'
    | _ => false
  | filter input word arguments line, f => match f with
    | filter input' word' arguments' line' =>
      alike input input' && word == word' && alikeArguments arguments arguments' && line == line'
    | _ => false
  | inverse operand, f => match f with
    | inverse operand' => alike operand operand'
    | _ => false
  | choice condition value (some otherwise) line, f => match f with
    | choice condition' value' (some otherwise') line' =>
      alike condition condition' && alike value value' && alike otherwise otherwise' && line == line'
    | _ => false
  | _, _ => false

def alikeArguments : List (Option String × Expr) → List (Option String × Expr) → Bool
  | [], ys => ys.isEmpty
  | (label, e) :: rest, ys => match ys with
    | (label', e') :: rest' => label == label' && alike e e' && alikeArguments rest rest'
    | [] => false

end

mutual

theorem eq_of_alike (e : Expr) {f : Expr} (h : e.alike f = true) : e = f := by
  cases e with
  | literal v =>
    cases v <;> simp only [alike, Bool.false_eq_true] at h
    split at h <;> simp_all
  | name s =>
    simp only [alike] at h
    split at h <;> simp_all
  | member owner word =>
    simp only [alike] at h
    split at h
    · simp only [Bool.and_eq_true, beq_iff_eq] at h
      rw [eq_of_alike owner h.1, h.2]
    · cases h
  | filter input word arguments line =>
    simp only [alike] at h
    split at h
    · simp only [Bool.and_eq_true, beq_iff_eq] at h
      obtain ⟨⟨⟨hinput, rfl⟩, harguments⟩, rfl⟩ := h
      rw [eq_of_alike input hinput, eq_of_alikeArguments arguments harguments]
    · cases h
  | inverse operand =>
    simp only [alike] at h
    split at h
    · rw [eq_of_alike operand h]
    · cases h
  | choice condition value otherwise line =>
    cases otherwise with
    | none => simp [alike] at h
    | some otherwise =>
      simp only [alike] at h
      split at h
      · simp only [Bool.and_eq_true, beq_iff_eq] at h
        obtain ⟨⟨⟨hcondition, hvalue⟩, hotherwise⟩, rfl⟩ := h
        rw [eq_of_alike condition hcondition, eq_of_alike value hvalue,
          eq_of_alike otherwise hotherwise]
      · cases h
  | _ => simp [alike] at h

theorem eq_of_alikeArguments (xs : List (Option String × Expr)) {ys : List (Option String × Expr)}
    (h : alikeArguments xs ys = true) : xs = ys := by
  cases xs with
  | nil =>
    simp only [alikeArguments, List.isEmpty_iff] at h
    exact h.symm
  | cons x rest =>
    obtain ⟨label, e⟩ := x
    simp only [alikeArguments] at h
    split at h
    · simp only [Bool.and_eq_true, beq_iff_eq] at h
      obtain ⟨⟨rfl, he⟩, hrest⟩ := h
      rw [eq_of_alike e he, eq_of_alikeArguments rest hrest]
    · cases h

end

end Expr

namespace Part

mutual

def alike : Part → Part → Bool
  | text s, q => match q with
    | text t => s == t
    | _ => false
  | print e, q => match q with
    | print f => e.alike f
    | _ => false
  | assign (.name s line) e, q => match q with
    | assign (.name t line') f => s == t && line == line' && e.alike f
    | _ => false
  | branch alternatives otherwise, q => match q with
    | branch alternatives' otherwise' =>
      alikeAlternatives alternatives alternatives' && alikeAll otherwise otherwise'
    | _ => false
  | loop (.name s line) source none body otherwise, q => match q with
    | loop (.name t line') source' none body' otherwise' =>
      s == t && line == line' && source.alike source' && alikeAll body body' &&
        alikeAll otherwise otherwise'
    | _ => false
  | _, _ => false

def alikeAll : List Part → List Part → Bool
  | [], qs => qs.isEmpty
  | p :: rest, qs => match qs with
    | q :: rest' => alike p q && alikeAll rest rest'
    | [] => false

def alikeAlternatives : List (Expr × List Part) → List (Expr × List Part) → Bool
  | [], ys => ys.isEmpty
  | (condition, body) :: rest, ys => match ys with
    | (condition', body') :: rest' =>
      condition.alike condition' && alikeAll body body' && alikeAlternatives rest rest'
    | [] => false

end

mutual

theorem eq_of_alike (p : Part) {q : Part} (h : p.alike q = true) : p = q := by
  cases p with
  | text s =>
    simp only [alike] at h
    split at h <;> simp_all
  | print e =>
    simp only [alike] at h
    split at h
    · rw [e.eq_of_alike h]
    · cases h
  | assign target e =>
    cases target with
    | name s line =>
      simp only [alike] at h
      split at h
      · simp only [Bool.and_eq_true, beq_iff_eq] at h
        obtain ⟨⟨rfl, rfl⟩, he⟩ := h
        rw [e.eq_of_alike he]
      · cases h
    | _ => simp [alike] at h
  | branch alternatives otherwise =>
    simp only [alike] at h
    split at h
    · simp only [Bool.and_eq_true] at h
      rw [eq_of_alikeAlternatives alternatives h.1, eq_of_alikeAll otherwise h.2]
    · cases h
  | loop target source condition body otherwise =>
    cases target with
    | name s line =>
      cases condition with
      | none =>
        simp only [alike] at h
        split at h
        · simp only [Bool.and_eq_true, beq_iff_eq] at h
          obtain ⟨⟨⟨⟨rfl, rfl⟩, hsource⟩, hbody⟩, hotherwise⟩ := h
          rw [source.eq_of_alike hsource, eq_of_alikeAll body hbody,
            eq_of_alikeAll otherwise hotherwise]
        · cases h
      | some e => simp [alike] at h
    | _ => simp [alike] at h
  | _ => simp [alike] at h

theorem eq_of_alikeAll (ps : List Part) {qs : List Part} (h : alikeAll ps qs = true) : ps = qs := by
  cases ps with
  | nil =>
    simp only [alikeAll, List.isEmpty_iff] at h
    exact h.symm
  | cons p rest =>
    simp only [alikeAll] at h
    split at h
    · simp only [Bool.and_eq_true] at h
      rw [eq_of_alike p h.1, eq_of_alikeAll rest h.2]
    · cases h

theorem eq_of_alikeAlternatives (xs : List (Expr × List Part)) {ys : List (Expr × List Part)}
    (h : alikeAlternatives xs ys = true) : xs = ys := by
  cases xs with
  | nil =>
    simp only [alikeAlternatives, List.isEmpty_iff] at h
    exact h.symm
  | cons x rest =>
    obtain ⟨condition, body⟩ := x
    simp only [alikeAlternatives] at h
    split at h
    · simp only [Bool.and_eq_true] at h
      obtain ⟨⟨hcondition, hbody⟩, hrest⟩ := h
      rw [condition.eq_of_alike hcondition, eq_of_alikeAll body hbody,
        eq_of_alikeAlternatives rest hrest]
    · cases h

end

end Part

end BeanForge.Template

import BeanForge.Proofs.Template.Yield

/-!
# Missing values

Work on a template beside the same work where more values are there. Nearly everything that is done
with a value that is not there fails, so that work which succeeds never came to one or only kept
it. A series of the items of such a value fails as soon as it is read.
-/

namespace BeanForge.Template

variable {α β : Type}

/-- The same value, or any value in place of one that is not there. -/
def Value.FilledBy (v w : Value) : Prop :=
  v = w ∨ ∃ message, v = .absent message false

theorem Value.FilledBy.refl (v : Value) : v.FilledBy v :=
  .inl rfl

/-! Work that fails -/

/-- The work does not succeed if it begins with some series. -/
def Fails (work : Rendering α) (feeds : Feeds) : Prop :=
  ∀ r, work feeds ≠ .ok r

section Work

variable {work : Rendering α} {next : α → Rendering β} {feeds after : Feeds} {outcome : Rendered α}

theorem bind_eq_ok {r : β × Feeds} (h : (work >>= next) feeds = .ok r) :
    ∃ a between, work feeds = .ok (a, between) ∧ next a between = .ok r := by
  have hsteps : (work feeds >>= fun s => next s.1 s.2) = .ok r := h
  cases hwork : work feeds with
  | error e =>
    rw [hwork] at hsteps
    cases hsteps
  | ok s =>
    rw [hwork] at hsteps
    exact ⟨s.1, s.2, rfl, hsteps⟩

theorem lift_eq_ok {a : α} (h : (liftM outcome : Rendering α) feeds = .ok (a, after)) :
    outcome = .ok a ∧ after = feeds := by
  cases outcome with
  | error e => cases h
  | ok b =>
    cases h
    exact ⟨rfl, rfl⟩

theorem fails_lift {e : RenderFault} (h : outcome = .error e) :
    Fails (liftM outcome : Rendering α) feeds := by
  subst h
  intro r hr
  cases hr

theorem fails_bind (h : ∀ a between, work feeds = .ok (a, between) → Fails (next a) between) :
    Fails (work >>= next) feeds := by
  intro r hr
  obtain ⟨a, between, hwork, hnext⟩ := bind_eq_ok hr
  exact h a between hwork r hnext

theorem Fails.map {f : α → β} (h : Fails work feeds) : Fails (f <$> work) feeds := by
  rw [← bind_pure_comp]
  exact fails_bind fun _ _ hwork => absurd hwork (h _)

theorem Fails.bind (h : Fails work feeds) : Fails (work >>= next) feeds :=
  fails_bind fun _ _ hwork => absurd hwork (h _)

/-- Work that starts with an outcome keeps the series of its beginning. -/
theorem fails_lift_bind (h : ∀ a, outcome = .ok a → Fails (next a) feeds) :
    Fails ((liftM outcome : Rendering α) >>= next) feeds := by
  refine fails_bind fun a between hlift => ?_
  obtain ⟨houtcome, rfl⟩ := lift_eq_ok hlift
  exact h a houtcome

end Work

/-! Work that goes the same way -/

/-- Whenever some work succeeds, its outcome is in a relation with what other work comes to. -/
def Follows (P : α → Feeds → Rendered (β × Feeds) → Prop) (work : Rendering α)
    (work' : Rendering β) : Prop :=
  ∀ feeds a after, work feeds = .ok (a, after) → P a after (work' feeds)

def Ends (R : α → β → Prop) (a : α) (after : Feeds) (outcome : Rendered (β × Feeds)) : Prop :=
  ∃ b, outcome = .ok (b, after) ∧ R a b

abbrev Entails (R : α → β → Prop) : Rendering α → Rendering β → Prop :=
  Follows (Ends R)

section Entailment

variable {γ δ : Type} {R : α → β → Prop} {P : γ → Feeds → Rendered (δ × Feeds) → Prop}

theorem entails_pure {a : α} {b : β} (h : R a b) :
    Entails R (pure a : Rendering α) (pure b : Rendering β) := by
  intro feeds a' after hpure
  cases hpure
  exact ⟨b, rfl, h⟩

theorem Entails.refl (work : Rendering α) : Entails (· = ·) work work :=
  fun _ a _ h => ⟨a, h, rfl⟩

theorem follows_of_fails {work : Rendering γ} {work' : Rendering δ}
    (h : ∀ feeds, Fails work feeds) : Follows P work work' :=
  fun feeds _ _ hwork => absurd hwork (h feeds _)

theorem Entails.bind {work : Rendering α} {work' : Rendering β} {next : α → Rendering γ}
    {next' : β → Rendering δ} (h : Entails R work work')
    (hnext : ∀ a b, R a b → Follows P (next a) (next' b)) :
    Follows P (work >>= next) (work' >>= next') := by
  intro feeds c after hbind
  obtain ⟨a, between, hwork, hrest⟩ := bind_eq_ok hbind
  obtain ⟨b, hwork', hab⟩ := h feeds a between hwork
  rw [bind_of_ok hwork']
  exact hnext a b hab between c after hrest

/-- What follows the same outcome has to be compared for that outcome only. -/
theorem Entails.bind_same {work work' : Rendering α} {next : α → Rendering γ}
    {next' : α → Rendering δ} (h : Entails (· = ·) work work')
    (hnext : ∀ a, Follows P (next a) (next' a)) : Follows P (work >>= next) (work' >>= next') :=
  h.bind fun a _ hab => hab ▸ hnext a

theorem Entails.map_same {f : α → β} {work work' : Rendering α}
    (h : Entails (· = ·) work work') : Entails (· = ·) (f <$> work) (f <$> work') := by
  rw [← bind_pure_comp, ← bind_pure_comp]
  exact h.bind_same fun _ => Entails.refl _

end Entailment

/-! Values that are used -/

namespace Value

variable {message : String}

theorem member_absent {name : String} (h : (absent "" false).feature? name = none) :
    (absent message false).member name = .error (.absent message) := by
  have hfeature : (absent message false).feature? name = none := h
  simp only [member, ownMember?, hfeature]
  rfl

theorem arithmetic_absent_left (operator : Operator) (b : Value) :
    arithmetic operator (absent message false) b = .error (.absent message) := by
  cases operator <;> rfl

theorem arithmetic_absent_right {operator : Operator} (h : operator ≠ .remainder)
    (message : String) (a : Value) :
    ∃ e, arithmetic operator a (absent message false) = .error e := by
  have hpresence : ∃ e, presence a (absent message false) = .error e := by
    have habsence : (absent message false).absence? = some message := rfl
    unfold presence
    rw [habsence]
    cases a.absence? <;> exact ⟨_, rfl⟩
  obtain ⟨e, he⟩ := hpresence
  cases operator
  case remainder => exact absurd rfl h
  all_goals
    refine ⟨e, ?_⟩
    simp only [arithmetic, he]
    rfl

theorem same_absent_left (b : Value) : same (absent message false) b = .error (.absent message) :=
  rfl

theorem sameScalar_absent_right (a : Value) :
    ∃ e, sameScalar a (absent message false) = .error e := by
  have habsence : (absent message false).strictAbsence? = some message := rfl
  unfold sameScalar
  rw [habsence]
  cases a.strictAbsence? <;> exact ⟨_, rfl⟩

theorem same_absent_right (message : String) (a : Value) : ∃ e, same a (absent message false) = .error e := by
  cases a <;> simp only [same] <;> exact sameScalar_absent_right _

theorem order_absent_left (b : Value) : order (absent message false) b = .error (.absent message) :=
  rfl

theorem orderScalar_absent_right (a : Value) :
    ∃ e, orderScalar a (absent message false) = .error e := by
  have habsence : (absent message false).absence? = some message := rfl
  unfold orderScalar
  rw [habsence]
  cases a.absence? <;> exact ⟨_, rfl⟩

theorem order_absent_right (message : String) (a : Value) : ∃ e, order a (absent message false) = .error e := by
  cases a <;> simp only [order] <;> exact orderScalar_absent_right _

/-- Among no items there is nothing, and a value that is not there is not looked for among others. -/
theorem entails_amongNext (w : Value) (number bound : Nat) :
    Entails (· = ·) (amongNext (absent message false) number bound) (amongNext w number bound) := by
  induction bound with
  | zero => exact entails_pure rfl
  | succ bound ih =>
    refine (Entails.refl (Filter.read number)).bind_same fun found => ?_
    cases found with
    | none => exact entails_pure rfl
    | some item =>
      refine follows_of_fails fun feeds => ?_
      obtain ⟨e, he⟩ := same_absent_right message item
      exact (fails_lift he).bind

theorem entails_isIn {v w : Value} (h : v.FilledBy w) (container : Value) :
    Entails (· = ·) (isIn v container) (isIn w container) := by
  rcases h with rfl | ⟨message, rfl⟩
  · exact .refl _
  · have hsource : ∀ source, Entails (· = ·) (amongSource (absent message false) source)
        (amongSource w source) := by
      rintro (items | number)
      · cases items with
        | nil => exact entails_pure rfl
        | cons item rest =>
          refine follows_of_fails fun feeds => ?_
          obtain ⟨e, he⟩ := same_absent_right message item
          have hitems : amongItems (absent message false) (item :: rest) = .error e := by
            simp only [amongItems, he]
          exact fails_lift hitems
      · exact fun feeds => entails_amongNext w number _ feeds
    cases container with
    | string s => exact follows_of_fails fun _ => fails_lift rfl
    | dict entries => exact follows_of_fails fun _ => fails_lift rfl
    | absent message lenient => exact .refl _
    | tuple items => exact hsource (.items items)
    | list items => exact hsource (.items items)
    | field f => exact hsource (.items _)
    | series number => exact hsource (.series number)
    | _ => exact .refl _

theorem comparison_absent_right (how : Comparison) (a : Value) (feeds : Feeds) :
    Fails (comparison how a (absent message false)) feeds := by
  obtain ⟨e, hsame⟩ := same_absent_right message a
  have hordered : ∀ sign holds, ∃ e, ordered sign holds a (absent message false) = .error e := by
    intro sign holds
    obtain ⟨e, horder⟩ := order_absent_right message a
    exact ⟨e, by rw [ordered, horder]; rfl⟩
  have hin : Fails (isIn a (absent message false)) feeds := fails_lift rfl
  cases how with
  | equal => exact fails_lift hsame
  | unequal => exact (fails_lift hsame).map
  | within => exact hin
  | notWithin => exact hin.map
  | less | lessOrEqual | greater | greaterOrEqual =>
    obtain ⟨_, he⟩ := hordered _ _
    exact fails_lift he

/-- A value that is not there can only be looked for in another one. -/
theorem comparison_absent_left {how : Comparison} (h : how ≠ .within ∧ how ≠ .notWithin)
    (b : Value) (feeds : Feeds) : Fails (comparison how (absent message false) b) feeds := by
  have hordered : ∀ sign holds,
      ordered sign holds (absent message false) b = .error (.absent message) := by
    intro sign holds
    rw [ordered, order_absent_left]
    rfl
  cases how with
  | equal => exact fails_lift (same_absent_left b)
  | unequal => exact (fails_lift (same_absent_left b)).map
  | within => exact absurd rfl h.1
  | notWithin => exact absurd rfl h.2
  | less | lessOrEqual | greater | greaterOrEqual => exact fails_lift (hordered _ _)

theorem entails_comparison {v w : Value} (h : v.FilledBy w) (how : Comparison) (b : Value) :
    Entails (· = ·) (comparison how v b) (comparison how w b) := by
  rcases h with rfl | ⟨message, rfl⟩
  · exact .refl _
  · have hin := entails_isIn (.inr ⟨message, rfl⟩ : (absent message false).FilledBy w) b
    cases how with
    | within => exact hin
    | notWithin => exact hin.map_same
    | _ =>
      refine follows_of_fails fun feeds => comparison_absent_left ?_ b feeds
      exact ⟨nofun, nofun⟩

theorem item_absent_owner (index : Value) :
    item (absent message false) index = .error (.absent message) :=
  rfl

/-- What is looked up under a value that is not there is not there itself. -/
theorem item_absent_index {owner v : Value} (h : item owner (absent message false) = .ok v) :
    ∃ reason, v = absent reason false := by
  have hnone : ownItem? owner (absent message false) = .ok none := by
    cases owner with
    | dict _ | absent _ _ => cases h
    | _ => rfl
  simp only [item, hnone] at h
  cases h
  exact ⟨_, rfl⟩

end Value

/-! Filters that use a value -/

namespace Filter

def isTolerant : Filter → Bool
  | map | default => true
  | _ => false

variable {f : Filter} {message : String}

theorem fails_members_missing (read : Reader) (member : Value) (feeds : Feeds) :
    Fails (members read (.absent message false) member) feeds :=
  fails_lift_bind fun _ _ => Fails.bind (fails_lift rfl)

theorem fails_joined_missing (read : Reader) (separator member : Option Value) (feeds : Feeds) :
    Fails (joined read (.absent message false) separator member) feeds := by
  unfold joined
  dsimp only
  split
  · exact fails_lift_bind fun _ _ => Fails.bind (fails_lift rfl)
  · exact fails_lift_bind fun _ _ => Fails.bind (fails_lift rfl)
  · exact (fails_members_missing read _ feeds).bind

theorem fails_joined_separator (read : Reader) (input : Value) (member : Option Value)
    (feeds : Feeds) : Fails (joined read input (some (.absent message false)) member) feeds := by
  unfold joined
  dsimp only
  split
  · exact Fails.bind (fails_lift rfl)
  · exact Fails.bind (fails_lift rfl)
  · exact fails_bind fun _ _ _ => Fails.bind (fails_lift rfl)

theorem assign_surplus {s : Signature} {given : List Value} (named : List (String × Value))
    (h : s.parameters.length < given.length) : ∃ e, s.assign given named = .error e := by
  unfold Signature.assign
  cases s.checkNamed given.length named with
  | error e => exact ⟨e, rfl⟩
  | ok _ =>
    rw [if_pos h]
    exact ⟨_, rfl⟩

/-- What is given by position comes first. -/
theorem assign_eq_ok {s : Signature} {given : List Value} {named : List (String × Value)}
    {arguments : List (Option Value)} (h : s.assign given named = .ok arguments) :
    ∃ others, arguments = given.map some ++ others := by
  unfold Signature.assign at h
  cases hnamed : s.checkNamed given.length named with
  | error e =>
    rw [hnamed] at h
    cases h
  | ok _ =>
    rw [hnamed] at h
    by_cases hsurplus : s.parameters.length < given.length
    · rw [if_pos hsurplus] at h
      cases h
    · rw [if_neg hsurplus] at h
      cases h
      exact ⟨_, rfl⟩

theorem applyLength_missing (given : List Value) (named : List (String × Value)) :
    ∃ e, applyLength (.absent message false) given named = .error e := by
  unfold applyLength
  split
  · exact ⟨_, rfl⟩
  · split <;> exact ⟨_, rfl⟩

theorem applyLength_argument (input v : Value) (given : List Value)
    (named : List (String × Value)) :
    ∃ e, applyLength input (v :: given) named = .error e := by
  unfold applyLength
  split <;> exact ⟨_, rfl⟩

theorem equalityOf_missing (message : String) (input : Value) :
    ∃ e, equalityOf input (some (.absent message false)) = .error e := by
  unfold equalityOf
  cases fieldOf "name" input <;> exact ⟨_, rfl⟩

theorem fails_apply_missing (h : f.isTolerant = false) (given : List Value)
    (named : List (String × Value)) (feeds : Feeds) :
    Fails (apply f (.absent message false) given named) feeds := by
  cases f with
  | map | default => cases h
  | length =>
    obtain ⟨_, he⟩ := applyLength_missing given named
    exact fails_lift he
  | join => exact fails_lift_bind fun _ _ => fails_joined_missing _ _ _ _
  | first => exact fails_lift_bind fun _ _ => Fails.bind (fails_lift rfl)
  | _ => exact fails_lift_bind fun _ _ => fails_lift rfl

/-- An argument is used too, or is one too many. -/
theorem fails_apply_argument (h : f.isTolerant = false) (input : Value) (given : List Value)
    (named : List (String × Value)) (feeds : Feeds) :
    Fails (apply f input (.absent message false :: given) named) feeds := by
  have hsurplus : f.signature.parameters.length = 1 → ∀ read,
      Fails (applyPlain read f input (.absent message false :: given) named) feeds := by
    intro hone read
    obtain ⟨_, he⟩ : ∃ e, f.signature.assign (input :: .absent message false :: given) named =
        .error e := assign_surplus named (by simp [hone])
    exact (fails_lift he).bind
  cases f with
  | map | default => cases h
  | length =>
    obtain ⟨_, he⟩ := applyLength_argument input (.absent message false) given named
    exact fails_lift he
  | join =>
    refine fails_lift_bind fun arguments hassign => ?_
    obtain ⟨others, rfl⟩ := assign_eq_ok hassign
    exact fails_joined_separator _ _ _ _
  | equality =>
    refine fails_lift_bind fun arguments hassign => ?_
    obtain ⟨others, rfl⟩ := assign_eq_ok hassign
    obtain ⟨_, he⟩ := equalityOf_missing message input
    exact fails_lift he
  | _ => exact hsurplus rfl (next (applyFrom (depthBound - 1)) (depthBound - 1))

end Filter

/-! Series of missing values -/

/-- A series that would take its items from a value that is not there. -/
inductive Feeds.Barren (feeds : Feeds) : Nat → Prop where
  | missing {number : Nat} {message : String} {given : List Value} {named : List (String × Value)}
      (there : feeds[number]? = some (.waiting (.absent message false) given named)) :
      Barren feeds number
  | taking {number other : Nat} {given : List Value} {named : List (String × Value)}
      (there : feeds[number]? = some (.waiting (.series other) given named))
      (earlier : other < number) (barren : Barren feeds other) : Barren feeds number

namespace Feeds.Barren

variable {feeds : Feeds} {number : Nat}

theorem lt_length (h : feeds.Barren number) : number < feeds.length := by
  cases h with
  | missing there => exact (List.getElem?_eq_some_iff.1 there).1
  | taking there _ _ => exact (List.getElem?_eq_some_iff.1 there).1

theorem append (h : feeds.Barren number) (more : Feeds) : Barren (feeds ++ more) number := by
  induction h with
  | missing there =>
    exact .missing (by rw [List.getElem?_append_left (lt_length (.missing there)), there])
  | taking there earlier barren ih =>
    exact .taking (by rw [List.getElem?_append_left (lt_length (.taking there earlier barren)),
      there]) earlier ih

/-- A series takes its items from earlier ones, so that it may go on itself. -/
theorem set (h : feeds.Barren number) {later : Nat} (hlater : number < later) (feed : Feed) :
    Barren (feeds.set later feed) number := by
  induction h with
  | missing there => exact .missing (by rw [List.getElem?_set_ne (Nat.ne_of_gt hlater), there])
  | taking there earlier barren ih =>
    exact .taking (by rw [List.getElem?_set_ne (Nat.ne_of_gt hlater), there]) earlier
      (ih (Nat.lt_trans earlier hlater))

theorem begun_of_series {number : Nat} {given : List Value} {named : List (String × Value)}
    {feed : Feed} (h : (Feed.waiting (.series number) given named).begun = .ok feed) :
    ∃ mapping, feed = .giving (.series number) mapping := by
  have hbegun : (Mapping.ofArguments given named >>= fun mapping =>
      pure (.giving (.series number) mapping) : Rendered Feed) = .ok feed := h
  cases harguments : Mapping.ofArguments given named with
  | error e =>
    rw [harguments] at hbegun
    cases hbegun
  | ok mapping =>
    rw [harguments] at hbegun
    cases hbegun
    exact ⟨mapping, rfl⟩

theorem fails_next (h : feeds.Barren number) (apply : Application) (depth : Nat) :
    Fails (Filter.next apply depth number) feeds := by
  induction depth generalizing number feeds with
  | zero => exact fails_lift rfl
  | succ depth ih =>
    unfold Filter.next
    refine fails_bind fun known between hget => ?_
    cases hget
    cases h with
    | missing there =>
      simp only [there]
      exact Fails.bind (fails_lift rfl)
    | taking there earlier barren =>
      simp only [there]
      refine fails_lift_bind fun begun hbegun => ?_
      obtain ⟨mapping, rfl⟩ := begun_of_series hbegun
      refine fails_bind fun _ between hmodify => ?_
      cases hmodify
      exact (ih (barren.set earlier _)).bind

/-- Nothing can be read, which all that is read tells at its end. -/
theorem items_eq (h : feeds.Barren number) (apply : Application) (depth : Nat) :
    ∃ e, Reader.items (Filter.next apply depth) (.series number) feeds = .ok (⟨[], some e⟩, feeds) := by
  have hfails := h.fails_next apply depth
  cases hnext : Filter.next apply depth number feeds with
  | ok r => exact absurd hnext (hfails r)
  | error e =>
    refine ⟨e, ?_⟩
    simp only [Reader.items, Reader.upTo, Reader.itemsFrom, hnext]

end Feeds.Barren

namespace Filter

def readsItems : Filter → Bool
  | join | first => true
  | _ => false

theorem members_barren {number : Nat} {feeds after : Feeds} (h : feeds.Barren number)
    {apply : Application} {depth : Nat} {member : Value} {s : Items}
    (hmembers : members (next apply depth) (.series number) member feeds = .ok (s, after)) :
    after = feeds ∧ ∃ e, s = ⟨[], some e⟩ := by
  obtain ⟨e, hitems⟩ := h.items_eq apply depth
  obtain ⟨path, _, hpath, hsource⟩ := bind_eq_ok hmembers
  obtain ⟨_, rfl⟩ := lift_eq_ok hpath
  obtain ⟨source, _, hlift, hread⟩ := bind_eq_ok hsource
  obtain ⟨hseries, rfl⟩ := lift_eq_ok hlift
  cases hseries
  rw [bind_of_ok hitems] at hread
  cases hread
  exact ⟨rfl, e, rfl⟩

theorem fails_joined_barren {number : Nat} {feeds : Feeds} (h : feeds.Barren number)
    (apply : Application) (depth : Nat) (separator member : Option Value) :
    Fails (joined (next apply depth) (.series number) separator member) feeds := by
  obtain ⟨e, hitems⟩ := h.items_eq apply depth
  have hread : ∀ {next : Items → Rendering Value}, Fails (next ⟨[], some e⟩) feeds →
      Fails ((liftM (Value.series number).source : Rendering Source) >>= fun source =>
        Reader.items (Filter.next apply depth) source >>= next) feeds := by
    intro next hnext
    refine fails_lift_bind fun source hsource => ?_
    cases hsource
    intro r hr
    rw [bind_of_ok hitems] at hr
    exact hnext r hr
  unfold joined
  simp only [pure_bind]
  split
  · exact fails_lift_bind fun _ _ => hread (Fails.bind (fails_lift rfl))
  · exact fails_lift_bind fun _ _ => hread (Fails.bind (fails_lift rfl))
  · refine fails_bind fun s after hmembers => fails_lift_bind fun _ _ => ?_
    obtain ⟨rfl, _, rfl⟩ := members_barren h hmembers
    exact Fails.bind (fails_lift rfl)

theorem fails_apply_barren {f : Filter} (hreads : f.readsItems = true) {number : Nat}
    {feeds : Feeds} (h : feeds.Barren number) (given : List Value)
    (named : List (String × Value)) : Fails (apply f (.series number) given named) feeds := by
  cases f with
  | first =>
    refine fails_lift_bind fun _ _ => fails_lift_bind fun source hsource => ?_
    cases hsource
    exact (h.fails_next _ _).bind
  | join => exact fails_lift_bind fun _ _ => fails_joined_barren h _ _ _ _
  | _ => cases hreads

end Filter

end BeanForge.Template

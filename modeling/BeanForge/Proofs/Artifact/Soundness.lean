import BeanForge.Proofs.Artifact.Session

/-!
# Soundness of sessions

Every path has at most one deposit that is not dropped, and it is the latest one. The path is
enlisted as long as there is one, and else there is no file. All moves preserve this, as each of
them changes one deposit and one place.
-/

namespace BeanForge

open Text

def Deposit.Sound (encoding : String) (codec : Codec) (t : FileTree) (d : Deposit) : Prop :=
  d.sink.keeping = .onDisk d.path ∧
  match d.fate with
  | .opened =>
    d.sink.isClosed = false ∧ t.place d.path = .ok d.path.settled ∧
      t.entry? d.path.settled = some (.file []) ∧
      ∃ given bytes, d.sink.stream = .file d.path.settled encoding given bytes true ∧
        d.Poured codec given bytes
  | .kept =>
    d.sink.isClosed = true ∧ t.place d.path = .ok d.path.settled ∧
      ∃ given bytes, d.sink.stream = .file d.path.settled encoding given bytes false ∧
        d.Poured codec given bytes ∧ t.entry? d.path.settled = some (.file bytes)
  | .dropped => d.sink.isClosed = true

/-- A store in a folder with the deposits made in it: a path is enlisted as long as its latest
deposit is not dropped, and a path that is not has no file. -/
structure Session.Sound (root : Path) (extension encoding : String) (codec : Codec)
    (s : Session) : Prop where
  store : s.site.store = .folder root extension encoding s.site.store.created
  within : ∀ d ∈ s.deposits, root.Within extension d.path
  nodup : s.site.store.created.Nodup
  live : ∀ p, p ∈ s.site.store.created ↔ ∃ d ∈ s.deposits, d.path = p ∧ d.fate ≠ .dropped
  order : s.deposits.Pairwise fun d e => d.path = e.path → d.fate = .dropped
  sound : ∀ d ∈ s.deposits, d.Sound encoding codec s.site.tree
  gone : ∀ d ∈ s.deposits, d.path ∉ s.site.store.created →
    ∀ bytes, s.site.tree.entry? d.path.settled ≠ some (.file bytes)

theorem mem_around_iff {α : Type} {l r : List α} {a b : α} :
    b ∈ l ++ a :: r ↔ b = a ∨ b ∈ l ++ r := by
  simp only [List.mem_append, List.mem_cons]
  exact or_left_comm

namespace Deposit

variable {encoding : String} {codec : Codec} {t u : FileTree} {d : Deposit}

theorem Sound.of_keepsFolders (h : d.Sound encoding codec t) (hfolders : t.KeepsFolders u)
    (hfiles : d.fate = .dropped ∨ ∀ bytes,
      t.entry? d.path.settled = some (.file bytes) → u.entry? d.path.settled = some (.file bytes)) :
    d.Sound encoding codec u := by
  obtain ⟨hkeeping, hstate⟩ := h
  refine ⟨hkeeping, ?_⟩
  cases hf : d.fate with
  | dropped => simpa only [hf] using hstate
  | opened =>
    have hfiles := hfiles.resolve_left (by simp [hf])
    simp only [hf] at hstate ⊢
    obtain ⟨hopen, hp, hfile, hstream⟩ := hstate
    exact ⟨hopen, FileTree.place_of_keepsFolders hfolders hp, hfiles _ hfile, hstream⟩
  | kept =>
    have hfiles := hfiles.resolve_left (by simp [hf])
    simp only [hf] at hstate ⊢
    obtain ⟨hclosed, hp, given, bytes, hstream, hpoured, hfile⟩ := hstate
    exact ⟨hclosed, FileTree.place_of_keepsFolders hfolders hp, given, bytes, hstream, hpoured,
      hfiles _ hfile⟩

theorem Sound.of_touches {place : Path} (h : d.Sound encoding codec t)
    (htouch : FileTree.Touches place t u)
    (hplace : d.fate = .dropped ∨ d.path.settled ≠ place) : d.Sound encoding codec u :=
  h.of_keepsFolders htouch.1 (hplace.imp_right fun hne bytes => (htouch.2 _ hne bytes).2)

theorem Sound.of_opened (h : d.Sound encoding codec t) (hf : d.fate = .opened) :
    d.sink.keeping = .onDisk d.path ∧ d.sink.isClosed = false ∧
      t.place d.path = .ok d.path.settled ∧ t.entry? d.path.settled = some (.file []) ∧
      ∃ given bytes, d.sink.stream = .file d.path.settled encoding given bytes true ∧
        d.Poured codec given bytes := by
  obtain ⟨hkeeping, hstate⟩ := h
  simp only [hf] at hstate
  exact ⟨hkeeping, hstate⟩

theorem Sound.of_kept (h : d.Sound encoding codec t) (hf : d.fate = .kept) :
    d.sink.isClosed = true ∧ t.place d.path = .ok d.path.settled ∧
      ∃ given bytes, d.sink.stream = .file d.path.settled encoding given bytes false ∧
        d.Poured codec given bytes ∧ t.entry? d.path.settled = some (.file bytes) := by
  obtain ⟨_, hstate⟩ := h
  simpa only [hf] using hstate

theorem Sound.isClosed_iff (h : d.Sound encoding codec t) :
    d.sink.isClosed = true ↔ d.fate ≠ .opened := by
  obtain ⟨_, hstate⟩ := h
  cases hf : d.fate <;> simp only [hf] at hstate <;> simp [hstate]

theorem Sound.afterWrite [Codecs] (h : d.Sound encoding codec t)
    (hcodec : Codecs.find encoding = .ok codec) (text : String)
    (refusal : Option Stream.Refusal) : (d.afterWrite text refusal).Sound encoding codec t := by
  obtain ⟨stream, accepted, intact, hw⟩ := d.exists_afterWrite text refusal
  cases hf : d.fate with
  | dropped =>
    obtain ⟨hkeeping, hstate⟩ := h
    simp only [hf] at hstate
    rw [hw]
    exact ⟨hkeeping, by simpa only [hf] using hstate⟩
  | kept =>
    obtain ⟨_, _, _, _, hstream, _⟩ := h.of_kept hf
    rw [afterWrite_of_closed hstream]
    exact h
  | opened =>
    obtain ⟨hkeeping, hopen, hp, hfile, given, bytes, hstream, hpoured⟩ := h.of_opened hf
    obtain ⟨more, hwritten, hmore⟩ := afterWrite_of_open hcodec hstream hpoured text refusal
    rw [hw] at hwritten hmore ⊢
    refine ⟨hkeeping, ?_⟩
    simp only [hf]
    exact ⟨hopen, hp, hfile, given ++ [text], more, hwritten, hmore⟩

end Deposit

namespace Session

variable {root : Path} {extension encoding : String} {codec : Codec} {s : Session}

theorem Sound.settled_ne (h : s.Sound root extension encoding codec) {d : Deposit} {p : Path}
    (hd : d ∈ s.deposits) (hp : root.Within extension p) (hne : d.path ≠ p) : d.path.settled ≠ p.settled :=
  fun hs => hne (Path.eq_of_settled_eq (h.within d hd) hp hs)

/-- A path that is not enlisted has no file after a change at another path either. -/
theorem Sound.gone_of_touches (h : s.Sound root extension encoding codec) {d : Deposit}
    {p : Path} {t : FileTree} (hd : d ∈ s.deposits) (hp : root.Within extension p) (hne : d.path ≠ p)
    (htouch : FileTree.Touches p.settled s.site.tree t) (hnot : d.path ∉ s.site.store.created)
    (bytes : Bytes) : t.entry? d.path.settled ≠ some (.file bytes) := fun hfile =>
  h.gone d hd hnot bytes ((htouch.2 _ (h.settled_ne hd hp hne) bytes).1 hfile)

theorem Sound.mem_created (h : s.Sound root extension encoding codec) {d : Deposit}
    (hd : d ∈ s.deposits) (hf : d.fate ≠ .dropped) : d.path ∈ s.site.store.created :=
  (h.live d.path).2 ⟨d, hd, rfl, hf⟩

/-- Two deposits of one path are not both alive. -/
theorem Sound.path_ne (h : s.Sound root extension encoding codec) {l r : List Deposit}
    {d e : Deposit} (hs : s.deposits = l ++ d :: r) (he : e ∈ l ++ r) (hd : d.fate ≠ .dropped)
    (hf : e.fate ≠ .dropped) : e.path ≠ d.path := by
  intro hp
  have horder := h.order
  rw [hs, List.pairwise_append, List.pairwise_cons] at horder
  rcases List.mem_append.1 he with he | he
  · exact hf (horder.2.2 e he d List.mem_cons_self hp)
  · exact hd (horder.2.1.1 e he hp.symm)

/-- Those of the other deposits that are alive have files of their own. -/
theorem Sound.others (h : s.Sound root extension encoding codec) {l r : List Deposit}
    {d : Deposit} {t : FileTree} (hs : s.deposits = l ++ d :: r) (hd : d.fate ≠ .dropped)
    (htouch : FileTree.Touches d.path.settled s.site.tree t) :
    ∀ e ∈ l ++ r, e.Sound encoding codec t := by
  intro e he
  have hmem : e ∈ s.deposits := hs ▸ mem_around_iff.2 (.inr he)
  have hdmem : d ∈ s.deposits := hs ▸ mem_around_iff.2 (.inl rfl)
  refine (h.sound e hmem).of_touches htouch ?_
  by_cases hf : e.fate = .dropped
  · exact .inl hf
  · exact .inr (h.settled_ne hmem (h.within d hdmem) (h.path_ne hs he hd hf))

theorem order_replace {l r : List Deposit} {d d' : Deposit} (hpath : d'.path = d.path)
    (hfate : d.fate = .dropped → d'.fate = .dropped)
    (h : (l ++ d :: r).Pairwise fun d e => d.path = e.path → d.fate = .dropped) :
    (l ++ d' :: r).Pairwise fun d e => d.path = e.path → d.fate = .dropped := by
  rw [List.pairwise_append, List.pairwise_cons] at h ⊢
  obtain ⟨hl, ⟨hd, hr⟩, hcross⟩ := h
  refine ⟨hl, ⟨fun e he hp => hfate (hd e he (hpath ▸ hp)), hr⟩, fun e he f hf hp => ?_⟩
  rcases List.mem_cons.1 hf with rfl | hf
  · exact hcross e he d List.mem_cons_self (hpath ▸ hp)
  · exact hcross e he f (List.mem_cons_of_mem _ hf) hp

theorem exists_replace_iff {l r : List Deposit} {d d' : Deposit} {P : Deposit → Prop}
    (h : P d' ↔ P d) : (∃ e ∈ l ++ d' :: r, P e) ↔ ∃ e ∈ l ++ d :: r, P e := by
  simp only [List.mem_append, List.mem_cons, or_and_right, exists_or, exists_eq_left, h]

theorem Sound.within_replace (h : s.Sound root extension encoding codec) {l r : List Deposit}
    {d d' : Deposit} (hs : s.deposits = l ++ d :: r) (hpath : d'.path = d.path) :
    ∀ e ∈ l ++ d' :: r, root.Within extension e.path := by
  intro e he
  rcases mem_around_iff.1 he with rfl | ho
  · exact hpath ▸ h.within d (hs ▸ mem_around_iff.2 (.inl rfl))
  · exact h.within e (hs ▸ mem_around_iff.2 (.inr ho))

/-- A deposit is replaced by one that is as much alive. -/
theorem Sound.rework (h : s.Sound root extension encoding codec) {l r : List Deposit}
    {d d' : Deposit} {t : FileTree} (hs : s.deposits = l ++ d :: r) (hpath : d'.path = d.path)
    (hfate : d'.fate = .dropped ↔ d.fate = .dropped) (hsound : d'.Sound encoding codec t)
    (ht : t = s.site.tree ∨
      d.fate ≠ .dropped ∧ FileTree.Touches d.path.settled s.site.tree t) :
    Sound root extension encoding codec
      ⟨{ s.site with tree := t }, l ++ d' :: r⟩ := by
  have hmem : ∀ e ∈ l ++ r, e ∈ s.deposits := fun e he => hs ▸ mem_around_iff.2 (.inr he)
  have hdmem : d ∈ s.deposits := hs ▸ mem_around_iff.2 (.inl rfl)
  constructor
  case store => exact h.store
  case within => exact h.within_replace hs hpath
  case nodup => exact h.nodup
  case live =>
    intro p
    rw [h.live p, hs]
    exact (exists_replace_iff (by rw [hpath, ne_eq, ne_eq, hfate])).symm
  case order => exact order_replace hpath hfate.2 (hs ▸ h.order)
  case sound =>
    intro e he
    rcases mem_around_iff.1 he with rfl | ho
    · exact hsound
    · rcases ht with rfl | ⟨hd, htouch⟩
      · exact h.sound e (hmem e ho)
      · exact h.others hs hd htouch e ho
  case gone =>
    intro e he hnot bytes
    rcases ht with rfl | ⟨hd, htouch⟩
    · rcases mem_around_iff.1 he with rfl | ho
      · rw [hpath] at hnot ⊢
        exact h.gone d hdmem hnot bytes
      · exact h.gone e (hmem e ho) hnot bytes
    · rcases mem_around_iff.1 he with rfl | ho
      · exact absurd (h.mem_created hdmem hd) (hpath ▸ hnot)
      · have hne : e.path ≠ d.path := fun hp => hnot (hp ▸ h.mem_created hdmem hd)
        exact h.gone_of_touches (hmem e ho) (h.within d hdmem) hne htouch hnot bytes

/-- A deposit is dropped with its file. -/
theorem Sound.drop (h : s.Sound root extension encoding codec) {l r : List Deposit}
    {d d' : Deposit} {t : FileTree} (hs : s.deposits = l ++ d :: r) (hpath : d'.path = d.path)
    (hd : d.fate ≠ .dropped) (hfate : d'.fate = .dropped) (hsound : d'.Sound encoding codec t)
    (htouch : FileTree.Touches d.path.settled s.site.tree t)
    (hgone : ∀ bytes, t.entry? d.path.settled ≠ some (.file bytes)) :
    Sound root extension encoding codec
      ⟨{ s.site with tree := t, store := s.site.store.strike d.path }, l ++ d' :: r⟩ := by
  have hmem : ∀ e ∈ l ++ r, e ∈ s.deposits := fun e he => hs ▸ mem_around_iff.2 (.inr he)
  have hdmem : d ∈ s.deposits := hs ▸ mem_around_iff.2 (.inl rfl)
  have hstrike : (s.site.store.strike d.path).created = s.site.store.created.erase d.path := by
    rw [h.store]
    rfl
  constructor
  case store =>
    show s.site.store.strike d.path = .folder root extension encoding
      (s.site.store.strike d.path).created
    rw [h.store]
    rfl
  case within => exact h.within_replace hs hpath
  case nodup => exact hstrike ▸ h.nodup.erase _
  case live =>
    intro p
    show p ∈ (s.site.store.strike d.path).created ↔ _
    rw [hstrike, h.nodup.mem_erase_iff, h.live p]
    constructor
    · rintro ⟨hne, e, he, rfl, hf⟩
      rcases mem_around_iff.1 (hs ▸ he) with rfl | ho
      · exact absurd rfl hne
      · exact ⟨e, mem_around_iff.2 (.inr ho), rfl, hf⟩
    · rintro ⟨e, he, rfl, hf⟩
      rcases mem_around_iff.1 he with rfl | ho
      · exact absurd hfate hf
      · exact ⟨h.path_ne hs ho hd hf, e, hmem e ho, rfl, hf⟩
  case order => exact order_replace hpath (fun _ => hfate) (hs ▸ h.order)
  case sound =>
    intro e he
    rcases mem_around_iff.1 he with rfl | ho
    · exact hsound
    · exact h.others hs hd htouch e ho
  case gone =>
    intro e he hnot bytes
    have hnot : e.path ∉ s.site.store.created.erase d.path := hstrike ▸ hnot
    by_cases hp : e.path = d.path
    · exact hp ▸ hgone bytes
    · have heold : e ∈ s.deposits := by
        rcases mem_around_iff.1 he with rfl | ho
        · exact absurd hpath hp
        · exact hmem e ho
      have hnotold : e.path ∉ s.site.store.created := fun hin =>
        hnot ((h.nodup.mem_erase_iff).2 ⟨hp, hin⟩)
      exact h.gone_of_touches heold (h.within d hdmem) hp htouch hnotold bytes

theorem Sound.grow (h : s.Sound root extension encoding codec) {t : FileTree}
    (hgrows : s.site.tree.Grows t) :
    Sound root extension encoding codec { s with site := { s.site with tree := t } } where
  store := h.store
  within := h.within
  nodup := h.nodup
  live := h.live
  order := h.order
  sound d hd :=
    (h.sound d hd).of_keepsFolders hgrows.keepsFolders (.inr fun bytes => (hgrows.file_iff _ bytes).2)
  gone d hd hnot bytes hfile := h.gone d hd hnot bytes ((hgrows.file_iff _ bytes).1 hfile)

/-- A deposit is made where a file was opened. -/
theorem Sound.add (h : s.Sound root extension encoding codec) {d : Deposit} {t : FileTree}
    (hwithin : root.Within extension d.path) (hnew : d.path ∉ s.site.store.created)
    (hfate : d.fate ≠ .dropped) (hsound : d.Sound encoding codec t)
    (htouch : FileTree.Touches d.path.settled s.site.tree t) :
    Sound root extension encoding codec
      ⟨{ s.site with tree := t, store := s.site.store.enlist d.path }, s.deposits ++ [d]⟩ := by
  have henlist : (s.site.store.enlist d.path).created = s.site.store.created ++ [d.path] := by
    rw [h.store]
    rfl
  have hdead : ∀ e ∈ s.deposits, e.path = d.path → e.fate = .dropped := by
    intro e he hp
    by_cases hf : e.fate = .dropped
    · exact hf
    · exact absurd (hp ▸ h.mem_created he hf) hnew
  constructor
  case store =>
    show s.site.store.enlist d.path = .folder root extension encoding
      (s.site.store.enlist d.path).created
    rw [h.store]
    rfl
  case within =>
    intro e he
    rcases List.mem_append.1 he with he | he
    · exact h.within e he
    · exact List.mem_singleton.1 he ▸ hwithin
  case nodup =>
    show (s.site.store.enlist d.path).created.Nodup
    rw [henlist, List.nodup_append]
    refine ⟨h.nodup, by simp, fun p hp q hq he => hnew ?_⟩
    rw [List.mem_singleton] at hq
    exact hq ▸ he ▸ hp
  case live =>
    intro p
    show p ∈ (s.site.store.enlist d.path).created ↔ _
    rw [henlist, List.mem_append, h.live p, List.mem_singleton]
    constructor
    · rintro (⟨e, he, hp, hf⟩ | rfl)
      · exact ⟨e, List.mem_append_left _ he, hp, hf⟩
      · exact ⟨d, List.mem_append_right _ List.mem_cons_self, rfl, hfate⟩
    · rintro ⟨e, he, hp, hf⟩
      rcases List.mem_append.1 he with he | he
      · exact .inl ⟨e, he, hp, hf⟩
      · exact .inr (List.mem_singleton.1 he ▸ hp.symm)
  case order =>
    show (s.deposits ++ [d]).Pairwise _
    rw [List.pairwise_append]
    refine ⟨h.order, List.pairwise_singleton _ _, fun e he f hf hp => ?_⟩
    rw [List.mem_singleton] at hf
    exact hdead e he (hf ▸ hp)
  case sound =>
    intro e he
    rcases List.mem_append.1 he with he | he
    · refine (h.sound e he).of_touches htouch ?_
      by_cases hp : e.path = d.path
      · exact .inl (hdead e he hp)
      · exact .inr (h.settled_ne he hwithin hp)
    · exact List.mem_singleton.1 he ▸ hsound
  case gone =>
    intro e he hnot bytes
    have hnot : e.path ∉ (s.site.store.enlist d.path).created := hnot
    simp only [henlist, List.mem_append, List.mem_singleton, not_or] at hnot
    rcases List.mem_append.1 he with he | he
    · exact h.gone_of_touches he hwithin hnot.2 htouch hnot.1 bytes
    · exact absurd (List.mem_singleton.1 he ▸ rfl) hnot.2

/-! Steps -/

/-- Deposits that are closed stay as they are, so it is the open ones that have to be looked at. -/
theorem Sound.update (h : s.Sound root extension encoding codec) (number : Nat)
    {change : Deposit → Site × Deposit}
    (hclosed : ∀ d, d.sink.isClosed = true → change d = (s.site, d))
    (hopened : ∀ l d r, s.deposits = l ++ d :: r → d.fate = .opened → d.Sound encoding codec s.site.tree →
      Sound root extension encoding codec ⟨(change d).1, l ++ (change d).2 :: r⟩) :
    (s.update number change).Sound root extension encoding codec := by
  rcases s.update_cases number change with hu | ⟨l, d, r, hs, _, hu⟩
  · rw [hu]
    exact h
  · have hd : d.Sound encoding codec s.site.tree := h.sound d (hs ▸ mem_around_iff.2 (.inl rfl))
    rw [hu]
    by_cases hf : d.fate = .opened
    · exact hopened l d r hs hf hd
    · rw [hclosed d (hd.isClosed_iff.2 hf), ← hs]
      exact h

theorem Sound.close (h : s.Sound root extension encoding codec) (number : Nat)
    (refusal : Option String) : (s.close number refusal).Sound root extension encoding codec := by
  refine h.update number (fun d hclosed => ?_) fun l d r hs hf hd => ?_
  · rw [Site.close_of_isClosed _ _ hclosed, afterClosing_of_isClosed hclosed rfl]
  · obtain ⟨hkeeping, hopen, hp, hfile, given, bytes, hstream, hpoured⟩ := hd.of_opened hf
    have hfolder : s.site.tree.entry? d.path.settled ≠ some .folder := by simp [hfile]
    cases refusal with
    | none =>
      rw [Site.close_of_open hopen hkeeping hstream hfile]
      refine h.rework hs rfl (by simp [Deposit.afterClosing, hopen, hf]) ⟨hkeeping, ?_⟩
        (.inr ⟨by simp [hf], FileTree.touches_put_file bytes hfolder⟩)
      simp only [Deposit.afterClosing, hopen, if_true, Bool.false_eq_true, if_false]
      exact ⟨trivial, FileTree.place_of_keepsFolders
          (FileTree.keepsFolders_put_file bytes hfolder) hp, given, bytes, rfl, hpoured,
        s.site.tree.entry?_put_self _ (FileTree.onlyUp_of_entry?_ne hfolder)⟩
    | some reason =>
      rw [Site.close_of_refused hopen hkeeping hstream hp hfile]
      refine h.drop hs rfl (by simp [hf]) (by simp [Deposit.afterClosing, hopen])
        ⟨hkeeping, by simp [Deposit.afterClosing, hopen]⟩ (Site.touches_emptied bytes hfile)
        fun more => ?_
      simp [Site.entry?_emptied bytes hfile]

theorem Sound.discard (h : s.Sound root extension encoding codec) (number : Nat)
    (refusal : Option String) :
    (s.discard number refusal).Sound root extension encoding codec := by
  refine h.update number (fun d hclosed => ?_) fun l d r hs hf hd => ?_
  · rw [Site.discard_of_isClosed _ _ hclosed, afterClosing_of_isClosed hclosed rfl]
  · obtain ⟨hkeeping, hopen, hp, hfile, given, bytes, hstream, _⟩ := hd.of_opened hf
    obtain ⟨notes, hdropped⟩ := Site.discard_of_open hopen hkeeping hstream hp hfile refusal
    rw [hdropped]
    refine h.drop hs rfl (by simp [hf]) (by simp [Deposit.afterClosing, hopen])
      ⟨hkeeping, by simp [Deposit.afterClosing, hopen]⟩ (Site.touches_emptied bytes hfile)
      fun more => ?_
    simp [Site.entry?_emptied bytes hfile]

variable [Codecs]

theorem Sound.create (h : s.Sound root extension encoding codec)
    (hcodec : Codecs.find encoding = .ok codec) (hext : '/' ∉ extension.toList)
    {qualifiedName : String} (hname : Inward qualifiedName) (hwhole : Whole qualifiedName) :
    (s.step (.create qualifiedName)).Sound root extension encoding codec := by
  rcases s.site.create_cases h.store hcodec qualifiedName with
    ⟨_, hc⟩ | ⟨hnew, ⟨t, stop, hgrows, _, hc⟩ | ⟨made, t, hgrows, hopen, hc⟩⟩
  · simpa only [step, hc] using h
  · simpa only [step, hc] using h.grow hgrows
  · obtain ⟨hplace, hfolder, rfl⟩ := FileTree.openNew_eq_ok_iff.1 hopen
    have hfile := made.entry?_put_self (.file []) (FileTree.onlyUp_of_entry?_ne hfolder)
    have hplace' := FileTree.place_of_keepsFolders (FileTree.keepsFolders_put_file [] hfolder) hplace
    have htouch := (hgrows.touches _).trans (FileTree.touches_put_file [] hfolder)
    have hwithin := within_of_openNew hname hwhole hext hopen
    simp only [step, hc, Site.fileSink]
    generalize Site.filePath root qualifiedName extension = path at *
    have hd : Deposit.Sound encoding codec (made.put path.settled (.file []))
        { path
          sink := ⟨qualifiedName, path.address s.site.workingFolder,
            .file path.settled encoding [] [] true, .onDisk path, false⟩ } :=
      ⟨rfl, rfl, hplace', hfile, [], [], rfl, fun _ => ⟨rfl, rfl⟩⟩
    exact h.add hwithin hnew Fate.noConfusion hd htouch

theorem Sound.write (h : s.Sound root extension encoding codec)
    (hcodec : Codecs.find encoding = .ok codec) (number : Nat) (text : String)
    (refusal : Option Stream.Refusal) :
    (s.step (.write number text refusal)).Sound root extension encoding codec := by
  rcases s.update_cases number fun d => (s.site, d.afterWrite text refusal) with
    hu | ⟨l, d, r, hs, _, hu⟩
  · rw [step, hu]
    exact h
  · rw [step, hu]
    obtain ⟨stream, accepted, intact, hw⟩ := d.exists_afterWrite text refusal
    have hd := (h.sound d (hs ▸ mem_around_iff.2 (.inl rfl))).afterWrite hcodec text refusal
    refine h.rework hs ?_ ?_ hd (.inl rfl)
    · rw [hw]
    · rw [hw]

theorem Sound.step (h : s.Sound root extension encoding codec)
    (hcodec : Codecs.find encoding = .ok codec) (hext : '/' ∉ extension.toList) {m : Move}
    (hm : m.Proper) : (s.step m).Sound root extension encoding codec := by
  cases m with
  | create qualifiedName => exact h.create hcodec hext hm.1 hm.2
  | write number text refusal => exact h.write hcodec number text refusal
  | close number refusal => exact h.close number refusal
  | discard number refusal => exact h.discard number refusal
  | leave number raised refusal =>
    cases raised with
    | false => exact h.close number refusal
    | true => exact h.discard number refusal

theorem Sound.run (h : s.Sound root extension encoding codec)
    (hcodec : Codecs.find encoding = .ok codec) (hext : '/' ∉ extension.toList)
    {moves : List Move} (hmoves : ∀ m ∈ moves, m.Proper) :
    (s.run moves).Sound root extension encoding codec := by
  induction moves generalizing s with
  | nil => exact h
  | cons m rest ih =>
    have hstep := h.step hcodec hext (hmoves m List.mem_cons_self)
    exact ih hstep fun m hm => hmoves m (List.mem_cons_of_mem _ hm)

end Session

end BeanForge

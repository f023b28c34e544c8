import Mathlib.Tactic.SplitIfs
import TelegramProvider.Expiring
import TelegramProvider.Histories

/-!
# Throttles

A throttle serves a request unless one with the same key was served within a window before it. The
requests that are served are computed from a list of requests (`served`), and a cache with lifetimes
makes the same decisions, since the last item of a key lasts longest (`isSome_get_iff`).

A throttle with coarser keys may hold requests apart that have different keys. `agrees_iff` : it
makes no other decisions just when no request comes within the window of a request with another key
that the coarser keys do not tell apart.
-/

set_option autoImplicit false
set_option linter.unusedSectionVars false

namespace Throttle

variable {γ κ μ ν : Type*}

/-- A throttle : the key of a request, when it is looked at, when it has been served, and for how
long this counts. -/
structure Limiter (γ κ : Type*) where
  key : γ → κ
  start : γ → ℤ
  stop : γ → ℤ
  window : ℤ

namespace Limiter

/-- A request that was served keeps another one from it. -/
def Blocks (L : Limiter γ κ) (d c : γ) : Prop :=
  L.key d = L.key c ∧ L.start c ≤ L.stop d + L.window

/-- The requests come one after the other. -/
structure InOrder (L : Limiter γ κ) (cs : List γ) : Prop where
  apart : cs.Pairwise fun d c => L.stop d ≤ L.start c
  forward : ∀ c ∈ cs, L.start c ≤ L.stop c

theorem InOrder.left {L : Limiter γ κ} {pre post : List γ} (h : L.InOrder (pre ++ post)) :
    L.InOrder pre :=
  ⟨(List.pairwise_append.1 h.apart).1, fun c hc => h.forward c (List.mem_append_left _ hc)⟩

variable [DecidableEq κ] [DecidableEq μ]

instance (L : Limiter γ κ) (d c : γ) : Decidable (L.Blocks d c) :=
  inferInstanceAs (Decidable (_ ∧ _))

/-- One more request. -/
def serve (L : Limiter γ κ) (done : List γ) (c : γ) : List γ :=
  if ∃ d ∈ done, L.Blocks d c then done else done ++ [c]

/-- The requests that are served. -/
def served (L : Limiter γ κ) (cs : List γ) : List γ :=
  cs.foldl L.serve []

/-- The request is served behind others. -/
def Admits (L : Limiter γ κ) (pre : List γ) (c : γ) : Prop :=
  ¬∃ d ∈ L.served pre, L.Blocks d c

section served

variable {L : Limiter γ κ} {cs pre post : List γ} {c d : γ}

theorem served_concat (L : Limiter γ κ) (cs : List γ) (c : γ) :
    L.served (cs ++ [c]) = L.serve (L.served cs) c :=
  List.foldl_append

theorem served_of_admits (h : L.Admits cs c) : L.served (cs ++ [c]) = L.served cs ++ [c] := by
  rw [served_concat, serve, if_neg h]

theorem served_of_not_admits (h : ¬L.Admits cs c) : L.served (cs ++ [c]) = L.served cs := by
  rw [served_concat, serve, if_pos (not_not.1 h)]

theorem served_sublist (L : Limiter γ κ) (cs : List γ) : (L.served cs).Sublist cs := by
  induction cs using List.reverseRecOn with
  | nil => exact List.Sublist.refl _
  | append_singleton cs c ih =>
    by_cases h : L.Admits cs c
    · rw [served_of_admits h]
      exact ih.append (List.Sublist.refl _)
    · rw [served_of_not_admits h]
      exact ih.trans (List.sublist_append_left _ _)

/-- What is served was admitted behind what comes before it. -/
theorem mem_served_iff : d ∈ L.served cs ↔ ∃ pre post, cs = pre ++ d :: post ∧ L.Admits pre d := by
  induction cs using List.reverseRecOn with
  | nil => simp [served]
  | append_singleton cs c ih =>
    constructor
    · intro hd
      by_cases h : L.Admits cs c
      · rw [served_of_admits h, List.mem_append, List.mem_singleton] at hd
        rcases hd with hd | rfl
        · obtain ⟨pre, post, rfl, hadmits⟩ := ih.1 hd
          exact ⟨pre, post ++ [c], by simp, hadmits⟩
        · exact ⟨cs, [], rfl, h⟩
      · rw [served_of_not_admits h] at hd
        obtain ⟨pre, post, rfl, hadmits⟩ := ih.1 hd
        exact ⟨pre, post ++ [c], by simp, hadmits⟩
    · rintro ⟨pre, post, hsplit, hadmits⟩
      rcases Histories.split_snoc hsplit with ⟨rfl, rfl, -⟩ | ⟨post', -, hsplit'⟩
      · rw [served_of_admits hadmits]
        simp
      · have hd := ih.2 ⟨pre, post', hsplit', hadmits⟩
        rw [served_concat, serve]
        split_ifs
        · exact hd
        · exact List.mem_append_left _ hd

/-- No request that is served keeps a later one from it. -/
theorem pairwise_served (L : Limiter γ κ) (cs : List γ) :
    (L.served cs).Pairwise fun d c => ¬L.Blocks d c := by
  induction cs using List.reverseRecOn with
  | nil => exact List.Pairwise.nil
  | append_singleton cs c ih =>
    by_cases h : L.Admits cs c
    · rw [served_of_admits h, List.pairwise_append]
      refine ⟨ih, List.pairwise_singleton _ _, fun d hd x hx hblocks => ?_⟩
      rw [List.mem_singleton.1 hx] at hblocks
      exact h ⟨d, hd, hblocks⟩
    · rwa [served_of_not_admits h]

end served

/-! ## A cache -/

section cache

variable {L : Limiter γ κ} {cs pre post : List γ} {c d : γ} {cache : Expiring.Cache κ ν} {v : γ → ν}
  {done : List γ} {k : κ}

/-- The cache has the last request of each key that was served. -/
def Tracks (L : Limiter γ κ) (v : γ → ν) (done : List γ) (cache : Expiring.Cache κ ν) : Prop :=
  ∀ k, cache.items k =
    (done.filter fun d => L.key d = k).getLast?.map fun d => ⟨v d, L.stop d + L.window⟩

theorem tracks_empty (L : Limiter γ κ) (v : γ → ν) : L.Tracks v [] .empty :=
  fun _ => rfl

theorem Tracks.set (h : L.Tracks v done cache) (c : γ) :
    L.Tracks v (done ++ [c]) (cache.set (L.key c) (v c) (L.stop c) L.window) := by
  intro k
  by_cases hk : L.key c = k
  · subst hk
    simp [Expiring.Cache.set]
  · have hother : (cache.set (L.key c) (v c) (L.stop c) L.window).items k = cache.items k := by
      simp [Expiring.Cache.set, Ne.symm hk]
    rw [hother, h k]
    simp [hk]

/-- An item is found just when a request that was served keeps the new one from it. -/
theorem Tracks.isSome_get_iff (h : L.Tracks v done cache)
    (hsorted : done.Pairwise fun d c => L.stop d ≤ L.stop c) (c : γ) :
    (cache.get (L.key c) (L.start c)).isSome = true ↔ ∃ d ∈ done, L.Blocks d c := by
  unfold Expiring.Cache.get
  rw [h (L.key c)]
  rcases List.eq_nil_or_concat (done.filter fun d => L.key d = L.key c) with
    hnil | ⟨init, last, hlast⟩
  · -- no request of this key was served
    rw [hnil]
    refine iff_of_false (by simp) ?_
    rintro ⟨d, hd, hkey, -⟩
    have hmem : d ∈ done.filter fun d => L.key d = L.key c :=
      List.mem_filter.2 ⟨hd, by simpa using hkey⟩
    rw [hnil] at hmem
    simp at hmem
  · have hmem : last ∈ done.filter fun d => L.key d = L.key c := by simp [hlast]
    obtain ⟨hdone, hkey⟩ := List.mem_filter.1 hmem
    have hfound : ((done.filter fun d => L.key d = L.key c).getLast?.map
        fun d => (⟨v d, L.stop d + L.window⟩ : Expiring.Item ν)) =
          some ⟨v last, L.stop last + L.window⟩ := by
      simp [hlast]
    rw [hfound]
    dsimp only
    have hlatest : ∀ d ∈ done, L.key d = L.key c → L.stop d ≤ L.stop last := by
      intro d hd hkey
      have hfilter := hsorted.filter fun d => L.key d = L.key c
      have hd' : d ∈ done.filter fun d => L.key d = L.key c :=
        List.mem_filter.2 ⟨hd, by simpa using hkey⟩
      rw [hlast, List.concat_eq_append] at hfilter hd'
      rcases List.mem_append.1 hd' with hinit | hend
      · exact (List.pairwise_append.1 hfilter).2.2 d hinit last (by simp)
      · exact Int.le_of_eq (congrArg L.stop (List.mem_singleton.1 hend))
    constructor
    · intro hsome
      split_ifs at hsome with hle
      · exact ⟨last, hdone, by simpa using hkey, hle⟩
      · simp at hsome
    · rintro ⟨d, hd, hdkey, hle⟩
      have hlate := hlatest d hd hdkey
      rw [if_pos (by omega)]
      rfl

/-- What is served one after the other was served at later times. -/
theorem InOrder.sorted_served (h : L.InOrder cs) :
    (L.served cs).Pairwise fun d c => L.stop d ≤ L.stop c := by
  have hsorted : cs.Pairwise fun d c => L.stop d ≤ L.stop c := by
    refine h.apart.imp_of_mem fun {d c} _ hc hle => ?_
    exact Int.le_trans hle (h.forward c hc)
  exact hsorted.sublist (served_sublist L cs)

end cache

/-- A request is kept back by one that was served at most : of two, the first would have kept back
the other. -/
theorem InOrder.eq_of_blocks {L : Limiter γ κ} {pre post : List γ} {c d e : γ}
    (h : L.InOrder (pre ++ c :: post)) (hd : d ∈ L.served pre) (he : e ∈ L.served pre)
    (hdc : L.Blocks d c) (hec : L.Blocks e c) : d = e := by
  have hstart : ∀ x ∈ L.served pre, L.start x ≤ L.start c := by
    intro x hx
    have hmem := (served_sublist L pre).subset hx
    have happart := (List.pairwise_append.1 h.apart).2.2 x hmem c (by simp)
    exact Int.le_trans (h.forward x (List.mem_append_left _ hmem)) happart
  have hblocks : ∀ x y, y ∈ L.served pre → L.Blocks x c → L.Blocks y c → L.Blocks x y :=
    fun x y hy hx hy' => ⟨hx.1.trans hy'.1.symm, Int.le_trans (hstart y hy) hx.2⟩
  have hpair := L.pairwise_served pre
  obtain ⟨l₁, l₂, hsplit⟩ := List.append_of_mem hd
  have he' := he
  rw [hsplit] at hpair he'
  obtain ⟨-, hcons, hbefore⟩ := List.pairwise_append.1 hpair
  rcases List.mem_append.1 he' with he' | he'
  · exact absurd (hblocks e d hd hec hdc) (hbefore e he' d List.mem_cons_self)
  · rcases List.mem_cons.1 he' with heq | he'
    · exact heq.symm
    · exact absurd (hblocks d e he hdc hec) ((List.pairwise_cons.1 hcons).1 e he')

/-! ## Coarser keys -/

/-- The throttle with keys that may be the same where those of `L` are not. -/
def coarsen (L : Limiter γ κ) (f : κ → μ) : Limiter γ μ where
  key c := f (L.key c)
  start := L.start
  stop := L.stop
  window := L.window

/-- The coarser throttle decides on each request as its keys were those of `L`, by what it
served. -/
def Agrees (L : Limiter γ κ) (f : κ → μ) (cs : List γ) : Prop :=
  ∀ pre c post, cs = pre ++ c :: post →
    ((L.coarsen f).Admits pre c ↔ ¬∃ d ∈ (L.coarsen f).served pre, L.Blocks d c)

/-- No request comes within the window of one that `L` serves, with another key that is the same
when coarser. -/
def CollisionFree (L : Limiter γ κ) (f : κ → μ) (cs : List γ) : Prop :=
  ∀ pre c post, cs = pre ++ c :: post →
    ∀ d ∈ L.served pre, (L.coarsen f).Blocks d c → L.key d = L.key c

section coarsen

variable {L : Limiter γ κ} {f : κ → μ} {cs pre done : List γ} {c d : γ}

theorem Blocks.coarsen (h : L.Blocks d c) (f : κ → μ) : (L.coarsen f).Blocks d c :=
  ⟨congrArg f h.1, h.2⟩

theorem Agrees.left {post : List γ} (h : L.Agrees f (pre ++ post)) : L.Agrees f pre := by
  rintro pre' c post' rfl
  exact h pre' c (post' ++ post) (by simp)

theorem CollisionFree.left {post : List γ} (h : L.CollisionFree f (pre ++ post)) :
    L.CollisionFree f pre := by
  rintro pre' c post' rfl
  exact h pre' c (post' ++ post) (by simp)

/-- A throttle that agrees serves the same requests. -/
theorem Agrees.served_eq (h : L.Agrees f cs) : (L.coarsen f).served cs = L.served cs := by
  induction cs using List.reverseRecOn with
  | nil => rfl
  | append_singleton cs c ih =>
    have hsame := ih h.left
    have hlast := h cs c [] rfl
    rw [hsame] at hlast
    by_cases hadmits : (L.coarsen f).Admits cs c
    · rw [served_of_admits hadmits, served_of_admits (L := L) (hlast.1 hadmits), hsame]
    · have hadmits' : ¬L.Admits cs c := fun hL => hadmits (hlast.2 hL)
      rw [served_of_not_admits hadmits, served_of_not_admits hadmits', hsame]

/-- Where no other key is the same when coarser, the coarser throttle keeps nothing else back. -/
theorem exists_blocks_iff (h : ∀ d ∈ done, (L.coarsen f).Blocks d c → L.key d = L.key c) :
    (∃ d ∈ done, (L.coarsen f).Blocks d c) ↔ ∃ d ∈ done, L.Blocks d c := by
  constructor
  · rintro ⟨d, hd, hblocks⟩
    exact ⟨d, hd, h d hd hblocks, hblocks.2⟩
  · rintro ⟨d, hd, hblocks⟩
    exact ⟨d, hd, hblocks.coarsen f⟩

/-- So does one without collisions. -/
theorem CollisionFree.served_eq (h : L.CollisionFree f cs) :
    (L.coarsen f).served cs = L.served cs := by
  induction cs using List.reverseRecOn with
  | nil => rfl
  | append_singleton cs c ih =>
    have hsame := ih h.left
    have hiff : (∃ d ∈ (L.coarsen f).served cs, (L.coarsen f).Blocks d c) ↔
        ∃ d ∈ L.served cs, L.Blocks d c := by
      rw [hsame]
      exact exists_blocks_iff (h cs c [] rfl)
    rw [served_concat, served_concat, serve, serve, if_congr hiff hsame (congrArg (· ++ [c]) hsame)]

/-- The coarser throttle agrees just when there are no collisions : a request is kept back by one
that was served at most, so not by one with its key and by one without. -/
theorem agrees_iff (hcs : L.InOrder cs) : L.Agrees f cs ↔ L.CollisionFree f cs := by
  constructor
  · rintro h pre c post rfl d hd hblocks
    have hsame : (L.coarsen f).served pre = L.served pre := h.left.served_eq
    have hadmits : ¬(L.coarsen f).Admits pre c :=
      fun hadmits => hadmits ⟨d, by rwa [hsame], hblocks⟩
    rw [h pre c post rfl, not_not] at hadmits
    obtain ⟨e, he, heblocks⟩ := hadmits
    have hcs' : (L.coarsen f).InOrder (pre ++ c :: post) := ⟨hcs.apart, hcs.forward⟩
    obtain rfl := hcs'.eq_of_blocks (hsame ▸ hd) he hblocks (heblocks.coarsen f)
    exact heblocks.1
  · intro h pre c post hsplit
    have hfree : L.CollisionFree f pre := by
      rw [hsplit] at h
      exact h.left
    rw [Admits, hfree.served_eq, exists_blocks_iff (h pre c post hsplit)]

end coarsen

end Limiter

end Throttle

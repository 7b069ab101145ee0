/-
# A wait that ends

The wait for the mount looks at its beginning and after each pause, and goes on as long as a look
finds nothing and comes before the deadline. The deadline is reached after a number of pauses that
depends on the length of the wait alone, so there is a last look. Unless it finds the mount it does
not come before the deadline, so a mount that is there by then and stays is not missed.
-/

import Mathlib.Algebra.Order.Floor.Div
import FileChat.Daemon.Prepare
import FileChat.Proofs.Files.Operations

namespace FileChat

namespace Mount

variable {mounted : Nat → Bool} {wait : Duration} {now count : Nat}

/-- After this look the wait goes on: it finds nothing and comes before the deadline. -/
def GoesOn (mounted : Nat → Bool) (wait : Duration) (now : Nat) : Prop :=
  mounted now = false ∧ now < wait.nanoseconds

instance (mounted : Nat → Bool) (wait : Duration) : DecidablePred (GoesOn mounted wait) :=
  fun now => inferInstanceAs (Decidable (mounted now = false ∧ now < wait.nanoseconds))

/-- The look after so many pauses is the last one. -/
structure EndsAfter (mounted : Nat → Bool) (wait : Duration) (count : Nat) : Prop where
  goesOn : ∀ earlier < count, GoesOn mounted wait (earlier * pause wait)
  ends : ¬ GoesOn mounted wait (count * pause wait)

theorem await_of_goesOn (h : GoesOn mounted wait now) :
    await mounted wait now =
      ⟨now :: (await mounted wait (now + pause wait)).looks,
        (await mounted wait (now + pause wait)).found⟩ := by
  rw [await, if_neg (by simp [h.1]), if_neg (Nat.not_le.mpr h.2)]

theorem await_of_not_goesOn (h : ¬ GoesOn mounted wait now) :
    await mounted wait now = ⟨[now], mounted now⟩ := by
  rw [await]
  cases hmounted : mounted now with
  | true => rfl
  | false =>
      have hlate : wait.nanoseconds ≤ now := Nat.not_lt.mp fun hearly => h ⟨hmounted, hearly⟩
      rw [if_neg (by simp), if_pos hlate]

theorem longestPause_pos : 0 < longestPause.nanoseconds := by decide

theorem pause_le_longestPause (wait : Duration) : pause wait ≤ longestPause.nanoseconds :=
  Nat.min_le_left _ _

/-- The deadline is reached after as many pauses as longest pauses are begun until then. -/
theorem le_ceilDiv_mul_pause (wait : Duration) :
    wait.nanoseconds ≤ (wait.nanoseconds ⌈/⌉ longestPause.nanoseconds) * pause wait := by
  have hcovers : wait.nanoseconds ≤
      longestPause.nanoseconds * (wait.nanoseconds ⌈/⌉ longestPause.nanoseconds) :=
    (ceilDiv_le_iff_le_mul longestPause_pos).mp (Nat.le_refl _)
  rcases Nat.le_total longestPause.nanoseconds wait.nanoseconds with hlong | hshort
  · rwa [pause, Nat.min_eq_left hlong, Nat.mul_comm]
  · -- A wait of at most one longest pause is one pause, or none if there is no time to wait.
    rw [pause, Nat.min_eq_right hshort]
    rcases Nat.eq_zero_or_pos wait.nanoseconds with hzero | hpos
    · rw [hzero, Nat.mul_zero]
    · exact Nat.le_mul_of_pos_left _ (Nat.pos_of_mul_pos_left (Nat.lt_of_lt_of_le hpos hcovers))

/-- There is a last look, at the latest when the deadline is reached. -/
theorem exists_endsAfter (mounted : Nat → Bool) (wait : Duration) :
    ∃ count ≤ wait.nanoseconds ⌈/⌉ longestPause.nanoseconds, EndsAfter mounted wait count := by
  have hends : ¬ GoesOn mounted wait
      ((wait.nanoseconds ⌈/⌉ longestPause.nanoseconds) * pause wait) :=
    fun h => Nat.not_lt.mpr (le_ceilDiv_mul_pause wait) h.2
  have hsome : ∃ count, ¬ GoesOn mounted wait (count * pause wait) := ⟨_, hends⟩
  exact ⟨Nat.find hsome, Nat.find_min' hsome hends,
    fun _ hearlier => not_not.mp (Nat.find_min hsome hearlier), Nat.find_spec hsome⟩

/-- What is left of a wait of which some pauses are past. -/
theorem await_mul_pause {past left : Nat} (h : EndsAfter mounted wait (past + left)) :
    await mounted wait (past * pause wait) =
      ⟨(List.range' past (left + 1)).map (· * pause wait),
        mounted ((past + left) * pause wait)⟩ := by
  induction left generalizing past with
  | zero => exact await_of_not_goesOn h.ends
  | succ left ih =>
      have hnext : past + 1 + left = past + (left + 1) := by omega
      rw [await_of_goesOn (h.goesOn past (by omega)), ← Nat.succ_mul, ih (hnext ▸ h), hnext]
      rfl

namespace EndsAfter

/-- The looks of a wait are one pause apart, and the last one decides. -/
theorem await_eq (h : EndsAfter mounted wait count) :
    await mounted wait 0 =
      ⟨(List.range (count + 1)).map (· * pause wait), mounted (count * pause wait)⟩ := by
  have hzero : EndsAfter mounted wait (0 + count) := by rwa [Nat.zero_add]
  have hall := await_mul_pause hzero
  rwa [Nat.zero_mul, Nat.zero_add, ← List.range_eq_range'] at hall

/-- Only the last look can find the mount. -/
theorem exists_mounted_iff (h : EndsAfter mounted wait count) :
    (∃ look ∈ (await mounted wait 0).looks, mounted look = true) ↔
      mounted (count * pause wait) = true := by
  rw [h.await_eq]
  constructor
  · rintro ⟨_, hlook, hfound⟩
    obtain ⟨earlier, hearlier, rfl⟩ := List.mem_map.mp hlook
    rcases Nat.lt_succ_iff_lt_or_eq.mp (List.mem_range.mp hearlier) with hless | rfl
    · exact absurd hfound (by simp [(h.goesOn earlier hless).1])
    · exact hfound
  · intro hfound
    exact ⟨_, List.mem_map_of_mem (List.mem_range.mpr (Nat.lt_succ_self count)), hfound⟩

/-- A last look that finds nothing does not come before the deadline. -/
theorem le_of_not_mounted (h : EndsAfter mounted wait count)
    (hnothing : mounted (count * pause wait) = false) :
    wait.nanoseconds ≤ count * pause wait :=
  Nat.not_lt.mp fun hearly => h.ends ⟨hnothing, hearly⟩

/-- The look before the last one comes before the deadline. -/
theorem mul_pause_lt (h : EndsAfter mounted wait count) :
    count * pause wait < wait.nanoseconds + longestPause.nanoseconds := by
  cases count with
  | zero =>
      rw [Nat.zero_mul]
      exact Nat.lt_add_left _ longestPause_pos
  | succ before =>
      have hbefore := (h.goesOn before (Nat.lt_succ_self before)).2
      rw [Nat.succ_mul]
      exact Nat.add_lt_add_of_lt_of_le hbefore (pause_le_longestPause wait)

end EndsAfter

end Mount

namespace Config

variable {files : Nat → FileSystem} {start deadline : Nat} {config : Config}

/-- If the clock shows the deadline, the last look decides. -/
theorem awaitMount_eq_ok_iff (hshown : Clock.after? start config.mountWait = some deadline) :
    config.awaitMount files start = .ok () ↔
      (config.lookForMount files start).found = true := by
  rw [awaitMount, hshown]
  dsimp only
  split
  · next hfound => exact iff_of_true rfl hfound
  · next hfound => exact iff_of_false nofun hfound

/-- There is no other reason to fail than that the last look finds nothing. -/
theorem awaitMount_eq_error_iff (hshown : Clock.after? start config.mountWait = some deadline)
    {cause : PrepareError} :
    config.awaitMount files start = .error cause ↔
      (config.lookForMount files start).found = false ∧
        cause = .notMounted config.mount config.mountWait := by
  rw [awaitMount, hshown]
  dsimp only
  split
  · next hfound => simp [hfound]
  · next hfound => simp [hfound, eq_comm]

/-- The wait for the mount, however that comes and goes, if the clock shows the deadline. It looks
at most once more than there are two seconds begun until the deadline, and it succeeds exactly if
one of its looks finds a directory. That is so if there is a directory from some moment on that is
not after the deadline. And it fails only at a look that finds none, not before the deadline and
less than two seconds after it. -/
theorem awaitMount_exact (hshown : Clock.after? start config.mountWait = some deadline) :
    (config.lookForMount files start).looks.length ≤
        config.mountWait.nanoseconds ⌈/⌉ (Duration.ofSeconds 2).nanoseconds + 1 ∧
      (config.awaitMount files start = .ok () ↔
        ∃ passed ∈ (config.lookForMount files start).looks,
          (files (start + passed)).isDirectory config.mount = true) ∧
      ((∃ since ≤ deadline, ∀ moment ≥ since,
          (files moment).isDirectory config.mount = true) →
        config.awaitMount files start = .ok ()) ∧
      ∀ cause, config.awaitMount files start = .error cause →
        cause = .notMounted config.mount config.mountWait ∧
        ∃ last, (config.lookForMount files start).looks.getLast? = some last ∧
          (files (start + last)).isDirectory config.mount = false ∧
          deadline ≤ start + last ∧
          start + last < deadline + (Duration.ofSeconds 2).nanoseconds := by
  obtain ⟨count, hcount, hends⟩ := Mount.exists_endsAfter
    (fun passed => (files (start + passed)).isDirectory config.mount) config.mountWait
  have hdeadline : deadline = start + config.mountWait.nanoseconds :=
    Clock.eq_add_of_after? hshown
  have hwaited : config.lookForMount files start =
      ⟨(List.range (count + 1)).map (· * Mount.pause config.mountWait),
        (files (start + count * Mount.pause config.mountWait)).isDirectory config.mount⟩ :=
    hends.await_eq
  have hfound : (∃ passed ∈ (config.lookForMount files start).looks,
      (files (start + passed)).isDirectory config.mount = true) ↔
        (files (start + count * Mount.pause config.mountWait)).isDirectory config.mount = true :=
    hends.exists_mounted_iff
  rw [awaitMount_eq_ok_iff hshown]
  refine ⟨?_, ?_, ?_, fun cause hcause => ?_⟩
  · rw [hwaited, List.length_map, List.length_range]
    exact Nat.succ_le_succ hcount
  · rw [hfound, hwaited]
  · rintro ⟨since, hsince, hstays⟩
    by_contra hnothing
    rw [hwaited, Bool.not_eq_true] at hnothing
    have hlate := hends.le_of_not_mounted hnothing
    rw [hstays _ (by omega)] at hnothing
    cases hnothing
  · rw [awaitMount_eq_error_iff hshown, hwaited] at hcause
    obtain ⟨hnothing, rfl⟩ := hcause
    have hlate := hends.le_of_not_mounted hnothing
    have hsoon := hends.mul_pause_lt
    refine ⟨rfl, count * Mount.pause config.mountWait, ?_, hnothing, by omega, ?_⟩
    · rw [hwaited, List.range_succ, List.map_append, List.map_singleton, List.getLast?_concat]
    · rw [hdeadline, Nat.add_assoc]
      exact Nat.add_lt_add_left hsoon start

/-- The files under a mount that comes at a moment and stays. -/
def mountedFrom (since moment : Nat) : FileSystem :=
  if since ≤ moment then FileSystem.withFile "a" [] else .empty

/-- A daemon that waits for three seconds. -/
def impatientConfig : Config := { standard with mount := "/s", mountWait := .ofSeconds 3 }

/-- Where nothing is mounted there is no directory. -/
theorem isDirectory_empty : FileSystem.empty.isDirectory impatientConfig.mount = false := by
  have hvacant : FileSystem.empty.resolve impatientConfig.mount = .ok (.vacant [] "s") :=
    FileSystem.follow_eq_ok.mpr ⟨by decide, by decide, by decide,
      FileSystem.walk_step _ _ _ _ (by decide) (by decide) (by decide) (by decide) (by decide)⟩
  rw [FileSystem.isDirectory, FileSystem.metadata, hvacant]
  rfl

/-- A mount that comes at the deadline, between the second look and the third one, is found. If none
comes, the wait is over before the next two seconds are. -/
theorem awaitMount_exact_of_impatientConfig :
    Clock.after? 5000000000 impatientConfig.mountWait = some 8000000000 ∧
      (impatientConfig.lookForMount (mountedFrom 8000000000) 5000000000).looks.length ≤ 3 ∧
      (∃ since ≤ 8000000000, ∀ moment ≥ since,
        (mountedFrom 8000000000 moment).isDirectory impatientConfig.mount = true) ∧
      impatientConfig.awaitMount (mountedFrom 8000000000) 5000000000 = .ok () ∧
      impatientConfig.awaitMount (fun _ => .empty) 5000000000 =
        .error (.notMounted "/s" (.ofSeconds 3)) ∧
      ∃ last,
        (impatientConfig.lookForMount (fun _ => .empty) 5000000000).looks.getLast? = some last ∧
        8000000000 ≤ 5000000000 + last ∧ 5000000000 + last < 10000000000 := by
  have hshown : Clock.after? 5000000000 impatientConfig.mountWait = some 8000000000 := rfl
  have hstays : ∃ since ≤ 8000000000, ∀ moment ≥ since,
      (mountedFrom 8000000000 moment).isDirectory impatientConfig.mount = true := by
    refine ⟨8000000000, Nat.le_refl _, fun moment hmoment => ?_⟩
    rw [mountedFrom, if_pos hmoment]
    exact (FileSystem.holds_withFile "a" []).opens.isDirectory_eq
  obtain ⟨hlooks, -, hfinds, -⟩ := @awaitMount_exact (mountedFrom 8000000000) _ _ _ hshown
  obtain ⟨-, hfound, -, hfails⟩ := @awaitMount_exact (fun _ => .empty) _ _ _ hshown
  have hnothing : impatientConfig.awaitMount (fun _ => .empty) 5000000000 ≠ .ok () := by
    rw [Ne, hfound]
    rintro ⟨passed, -, hthere⟩
    rw [isDirectory_empty] at hthere
    cases hthere
  obtain ⟨cause, hcause⟩ : ∃ cause,
      impatientConfig.awaitMount (fun _ => .empty) 5000000000 = .error cause := by
    cases hresult : impatientConfig.awaitMount (fun _ => .empty) 5000000000 with
    | error cause => exact ⟨cause, rfl⟩
    | ok _ => exact absurd hresult hnothing
  obtain ⟨rfl, last, hlast, -, hlate, hsoon⟩ := hfails cause hcause
  exact ⟨hshown, hlooks, hstays, hfinds hstays, hcause, last, hlast, hlate, hsoon⟩

end Config

end FileChat

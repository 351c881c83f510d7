import TieredRates.Proofs.Settings.Literal
import TieredRates.Settings.Load

namespace TieredRates

open Text

namespace Environment

/-- A variable gives a positive number of seconds that fits 64 bits. -/
inductive Lasts (env : Environment) (name : String) (unset : Int) : Int → Prop
  | given {s : String} {n : Int} (h : env.value? name = some s)
      (hwrites : Literal.Writes (trim s.toList) n) (hpos : 0 < n) (hfits : n ≤ 0x7fffffffffffffff) :
      Lasts env name unset n
  | unset (h : env.value? name = none) (hpos : 0 < unset) : Lasts env name unset unset

structure Gives (env : Environment) (s : Settings) : Prop where
  portNumber : env.literal "PORT" (Literal.natural 0xffff) 3000 = .ok s.portNumber
  databaseUrl : env.value? "DATABASE_URL" = some s.databaseUrl
  redisUrl : env.value? "REDIS_URL" = s.redisUrl
  l1Window : ∃ n, env.Lasts "RATE_L1_TTL_SECS" 300 n ∧ s.l1Window = Span.ofSeconds n
  syncInterval : ∃ n, env.Lasts "RATE_SYNC_INTERVAL_SECS" 86400 n ∧
    s.syncInterval = Span.ofSeconds n
  authority : env.authority = .ok s.authority
  providerTimeout :
    env.literal "PROVIDER_TIMEOUT_SECS" (Literal.natural 0xffffffffffffffff) 10 =
      .ok s.providerTimeout
  fixedRates : env.literal "ENABLE_FIXED_RATES" Literal.truth false = .ok s.fixedRates

variable {env : Environment} {name : String} {unset n m : Int} {s : Settings}

theorem lasts_iff :
    env.Lasts name unset n ↔ env.literal name Literal.integer unset = .ok n ∧ 0 < n := by
  constructor
  · rintro (⟨h, hwrites, hpos, hfits⟩ | ⟨h, hpos⟩)
    · refine ⟨?_, hpos⟩
      rw [literal, h]
      exact mapError_eq_ok_iff.2 (Literal.integer_eq_ok_iff.2 ⟨hwrites, by omega, hfits⟩)
    · rw [literal, h]
      exact ⟨rfl, hpos⟩
  · rintro ⟨h, hpos⟩
    rw [literal] at h
    split at h
    · next hs =>
      obtain ⟨hwrites, -, hfits⟩ := Literal.integer_eq_ok_iff.1 (mapError_eq_ok_iff.1 h)
      exact .given hs hwrites hpos hfits
    · next hs =>
      obtain rfl := Except.ok.inj h
      exact .unset hs hpos

theorem Lasts.unique (h : env.Lasts name unset n) (h' : env.Lasts name unset m) : n = m :=
  Except.ok.inj ((lasts_iff.1 h).1.symm.trans (lasts_iff.1 h').1)

end Environment

namespace Settings

variable {env : Environment} {s : Settings}

theorem gives_of_read (h : read env = .ok s) : env.Gives s := by
  rw [read] at h
  obtain ⟨portNumber, hport, h⟩ := bind_eq_ok_iff.1 h
  split at h
  · next url hurl =>
    obtain ⟨_, hok, h⟩ := bind_eq_ok_iff.1 h
    obtain rfl := Except.ok.inj hok
    obtain ⟨l, hl, h⟩ := bind_eq_ok_iff.1 h
    obtain ⟨m, hm, h⟩ := bind_eq_ok_iff.1 h
    split at h
    · exact nomatch h
    · next hpos =>
      obtain ⟨hlpos, hmpos⟩ := not_or.1 hpos
      obtain ⟨authority, hauthority, h⟩ := bind_eq_ok_iff.1 h
      obtain ⟨timeout, htimeout, h⟩ := bind_eq_ok_iff.1 h
      obtain ⟨fixedRates, hfixed, h⟩ := bind_eq_ok_iff.1 h
      obtain rfl := Except.ok.inj h
      have hl' := Environment.lasts_iff.2 ⟨hl, Int.not_le.1 hlpos⟩
      have hm' := Environment.lasts_iff.2 ⟨hm, Int.not_le.1 hmpos⟩
      exact ⟨hport, hurl, rfl, ⟨l, hl', rfl⟩, ⟨m, hm', rfl⟩, hauthority, htimeout, hfixed⟩
  · exact nomatch h

theorem read_of_gives (h : env.Gives s) : read env = .ok s := by
  obtain ⟨l, hl, hl1⟩ := h.l1Window
  obtain ⟨m, hm, hsync⟩ := h.syncInterval
  obtain ⟨hl, hlpos⟩ := Environment.lasts_iff.1 hl
  obtain ⟨hm, hmpos⟩ := Environment.lasts_iff.1 hm
  have hpos : ¬ (l ≤ 0 ∨ m ≤ 0) := by omega
  rw [read, h.portNumber, h.databaseUrl, hl, hm, h.authority, h.providerTimeout, h.fixedRates,
    h.redisUrl]
  simp only [bind, Except.bind, hpos, if_false, ← hl1, ← hsync]
  rfl

theorem gives_unique {s' : Settings} (h : env.Gives s) (h' : env.Gives s') : s = s' :=
  Except.ok.inj ((read_of_gives h).symm.trans (read_of_gives h'))

def longestSeconds : Int := 9223372036854775

theorem ofSeconds_le_longestWindow_iff {n : Int} :
    Span.ofSeconds n ≤ longestWindow ↔ n ≤ longestSeconds := by
  rw [Span.ofSeconds, longestWindow, Span.ofMillis, longestSeconds]
  omega

def Fits (s : Settings) : Prop := s.l1Window ≤ longestWindow ∧ s.syncInterval ≤ longestWindow

section Windows

variable {l m : Int} (h : env.Gives s) (hl : env.Lasts "RATE_L1_TTL_SECS" 300 l)
variable (hm : env.Lasts "RATE_SYNC_INTERVAL_SECS" 86400 m)

include h hl hm

theorem windows_of_lasts :
    s.l1Window = Span.ofSeconds l ∧ s.syncInterval = Span.ofSeconds m := by
  obtain ⟨l', hl', hl1⟩ := h.l1Window
  obtain ⟨m', hm', hsync⟩ := h.syncInterval
  rw [hl1, hsync, hl'.unique hl, hm'.unique hm]
  exact ⟨rfl, rfl⟩

theorem fits_of_lasts : s.Fits ↔ l ≤ longestSeconds ∧ m ≤ longestSeconds := by
  obtain ⟨hl1, hsync⟩ := windows_of_lasts h hl hm
  rw [Fits, hl1, hsync, ofSeconds_le_longestWindow_iff, ofSeconds_le_longestWindow_iff]

end Windows

theorem fits_iff (h : env.Gives s) : s.Fits ↔ ¬ ∃ n, longestSeconds < n ∧
    (env.Lasts "RATE_L1_TTL_SECS" 300 n ∨ env.Lasts "RATE_SYNC_INTERVAL_SECS" 86400 n) := by
  obtain ⟨l, hl, -⟩ := h.l1Window
  obtain ⟨m, hm, -⟩ := h.syncInterval
  rw [fits_of_lasts h hl hm]
  constructor
  · rintro ⟨hlong, hlong'⟩ ⟨n, hn, hlasts | hlasts⟩
    · rw [hlasts.unique hl] at hn
      exact Int.not_le.2 hn hlong
    · rw [hlasts.unique hm] at hn
      exact Int.not_le.2 hn hlong'
  · intro hnone
    constructor
    · exact Int.not_lt.1 fun hn ↦ hnone ⟨l, hn, .inl hl⟩
    · exact Int.not_lt.1 fun hn ↦ hnone ⟨m, hn, .inr hm⟩

theorem load_cases (env : Environment) :
    (∃ s, env.Gives s ∧ s.Fits ∧ load env = .loaded s) ∨
    (∃ s, env.Gives s ∧ ¬ s.Fits ∧ load env = .aborted) ∨
    ((∀ s, ¬ env.Gives s) ∧ ∃ e, load env = .refused e) := by
  cases hread : read env with
  | error e =>
    refine .inr (.inr ⟨?_, e, by rw [load, hread]⟩)
    intro s hs
    rw [read_of_gives hs] at hread
    exact nomatch hread
  | ok s =>
    have hs := gives_of_read hread
    by_cases hfits : s.Fits
    · exact .inl ⟨s, hs, hfits, by rw [load, hread]; exact if_pos hfits⟩
    · exact .inr (.inl ⟨s, hs, hfits, by rw [load, hread]; exact if_neg hfits⟩)

theorem load_eq_refused_iff : (∃ e, load env = .refused e) ↔ ∀ s, ¬ env.Gives s := by
  rcases load_cases env with ⟨s, hs, -, hload⟩ | ⟨s, hs, -, hload⟩ | ⟨hnone, hload⟩
  · simp only [hload, reduceCtorEq, exists_false, false_iff]
    exact fun hnone ↦ hnone s hs
  · simp only [hload, reduceCtorEq, exists_false, false_iff]
    exact fun hnone ↦ hnone s hs
  · exact iff_of_true hload hnone

theorem load_eq_loaded_iff : load env = .loaded s ↔ env.Gives s ∧ s.Fits := by
  rcases load_cases env with ⟨s', hs', hfits, hload⟩ | ⟨s', hs', hfits, hload⟩ | ⟨hnone, e, hload⟩
  · rw [hload, Outcome.loaded.injEq]
    constructor
    · rintro rfl
      exact ⟨hs', hfits⟩
    · rintro ⟨hs, -⟩
      exact gives_unique hs' hs
  · rw [hload]
    refine ⟨nofun, ?_⟩
    rintro ⟨hs, h⟩
    rw [gives_unique hs' hs] at hfits
    exact absurd h hfits
  · rw [hload]
    refine ⟨nofun, ?_⟩
    rintro ⟨hs, -⟩
    exact absurd hs (hnone s)

theorem load_eq_aborted_iff : load env = .aborted ↔ (∃ s, env.Gives s) ∧ ∃ n, longestSeconds < n ∧
    (env.Lasts "RATE_L1_TTL_SECS" 300 n ∨ env.Lasts "RATE_SYNC_INTERVAL_SECS" 86400 n) := by
  rcases load_cases env with ⟨s, hs, hfits, hload⟩ | ⟨s, hs, hfits, hload⟩ | ⟨hnone, e, hload⟩
  · rw [hload]
    exact ⟨nofun, fun h ↦ absurd h.2 ((fits_iff hs).1 hfits)⟩
  · refine iff_of_true hload ⟨⟨s, hs⟩, ?_⟩
    exact Classical.not_not.1 (mt (fits_iff hs).2 hfits)
  · rw [hload]
    refine ⟨nofun, ?_⟩
    rintro ⟨⟨s, hs⟩, -⟩
    exact absurd hs (hnone s)

/-- What the variables give is loaded, with windows of exactly their seconds, and what gives nothing
is refused. Only more seconds than there is room for end the program. -/
theorem load_windows (env : Environment) :
    ((∃ e, load env = .refused e) ↔ ∀ s, ¬ env.Gives s) ∧
    (∀ s, load env = .loaded s ↔ env.Gives s ∧ s.Fits) ∧
    (load env = .aborted ↔ (∃ s, env.Gives s) ∧ ∃ n, longestSeconds < n ∧
      (env.Lasts "RATE_L1_TTL_SECS" 300 n ∨ env.Lasts "RATE_SYNC_INTERVAL_SECS" 86400 n)) ∧
    ∀ l m, env.Lasts "RATE_L1_TTL_SECS" 300 l → env.Lasts "RATE_SYNC_INTERVAL_SECS" 86400 m →
      l ≤ longestSeconds → m ≤ longestSeconds → (∃ e, load env = .refused e) ∨
        ∃ s, load env = .loaded s ∧ s.l1Window = Span.ofSeconds l ∧
          s.syncInterval = Span.ofSeconds m := by
  refine ⟨load_eq_refused_iff, fun s ↦ load_eq_loaded_iff, load_eq_aborted_iff, ?_⟩
  intro l m hl hm hlong hlong'
  by_cases hnone : ∀ s, ¬ env.Gives s
  · exact .inl (load_eq_refused_iff.2 hnone)
  · obtain ⟨s, hs⟩ := Classical.not_forall_not.1 hnone
    have hfits : s.Fits := (fits_of_lasts hs hl hm).2 ⟨hlong, hlong'⟩
    exact .inr ⟨s, load_eq_loaded_iff.2 ⟨hs, hfits⟩, windows_of_lasts hs hl hm⟩

section Ages

def windowEnv (seconds : String) : Environment
  | "DATABASE_URL" => some "memory://"
  | "RATE_L1_TTL_SECS" => some seconds
  | _ => none

def windowSettings (seconds : Int) : Settings where
  portNumber := 3000
  databaseUrl := "memory://"
  redisUrl := none
  l1Window := Span.ofSeconds seconds
  syncInterval := Span.ofSeconds 86400
  authority := none
  providerTimeout := 10
  fixedRates := false

theorem load_windows_ages :
    (windowEnv "9223372036854775").Lasts "RATE_L1_TTL_SECS" 300 longestSeconds ∧
      (windowEnv "9223372036854775").Lasts "RATE_SYNC_INTERVAL_SECS" 86400 86400 ∧
      ∃ s, load (windowEnv "9223372036854775") = .loaded s ∧
        s.l1Window = Span.ofSeconds longestSeconds ∧ s.syncInterval = Span.ofSeconds 86400 := by
  have hl : (windowEnv "9223372036854775").Lasts "RATE_L1_TTL_SECS" 300 longestSeconds :=
    Environment.lasts_iff.2 ⟨toOption_eq_some_iff.1 (by decide +kernel), by decide⟩
  have hm : (windowEnv "9223372036854775").Lasts "RATE_SYNC_INTERVAL_SECS" 86400 86400 :=
    Environment.lasts_iff.2 ⟨rfl, by decide⟩
  have hload : load (windowEnv "9223372036854775") = .loaded (windowSettings longestSeconds) := by
    decide +kernel
  obtain ⟨-, -, -, h⟩ := load_windows (windowEnv "9223372036854775")
  refine ⟨hl, hm, (h _ _ hl hm (by decide) (by decide)).resolve_left ?_⟩
  rintro ⟨e, he⟩
  rw [hload] at he
  exact nomatch he

/-- With one second more there is no report, though the number fits 64 bits. -/
theorem load_windowEnv_aborted :
    (windowEnv "9223372036854776").Lasts "RATE_L1_TTL_SECS" 300 (longestSeconds + 1) ∧
      load (windowEnv "9223372036854776") = .aborted :=
  ⟨Environment.lasts_iff.2 ⟨toOption_eq_some_iff.1 (by decide +kernel), by decide⟩,
    by decide +kernel⟩

end Ages

end Settings

end TieredRates

import TieredRates.Proofs.Settings.Load
import TieredRates.Proofs.Text.Blank

namespace TieredRates

open Text

namespace Environment

/-- The variable is not there, or holds white space alone. -/
def Unset (env : Environment) (name : String) : Prop :=
  ∀ s, env name = some s → ∀ c ∈ s.toList, isBlank c

/-- What a variable holds, exactly as it is given, unless it is unset. -/
inductive Contains (env : Environment) (name : String) : Option String → Prop
  | given {s : String} (h : env name = some s) (hset : ¬ env.Unset name) :
      Contains env name (some s)
  | unset (h : env.Unset name) : Contains env name none

/-- What a variable says in a kind of literal, white space around that left off. -/
inductive Says {α : Type} (env : Environment) (name : String) (kind : List Char → α → Prop)
    (unset : α) : α → Prop
  | given {s : String} {a : α} (h : env.Contains name (some s)) (ha : kind (trim s.toList) a) :
      Says env name kind unset a
  | unset (h : env.Unset name) : Says env name kind unset unset

/-- The variable is unset or holds a literal of this kind. -/
def Permits {α : Type} (env : Environment) (name : String) (kind : List Char → α → Prop) : Prop :=
  env.Unset name ∨ ∃ s a, env name = some s ∧ kind (trim s.toList) a

def authorityNames : List String :=
  ["AUTHORITATIVE_CURRENCY", "AUTHORITATIVE_PROVIDER_ID", "AUTHORITATIVE_ENDPOINT"]

def windowNames : List String := ["RATE_L1_TTL_SECS", "RATE_SYNC_INTERVAL_SECS"]

def names : List String :=
  ["PORT", "DATABASE_URL", "REDIS_URL", "PROVIDER_TIMEOUT_SECS", "ENABLE_FIXED_RATES",
    "AUTHORITATIVE_API_KEY"] ++ windowNames ++ authorityNames

inductive Appoints (env : Environment) : Option Authority → Prop
  | all {code : String} {a : Authority}
      (hcode : env.Contains "AUTHORITATIVE_CURRENCY" (some code))
      (hcurrency : CurrencyCode.parse code = .ok a.currency)
      (hprovider : env.Contains "AUTHORITATIVE_PROVIDER_ID" (some a.provider))
      (hendpoint : env.Contains "AUTHORITATIVE_ENDPOINT" (some a.endpoint))
      (hkey : env.Contains "AUTHORITATIVE_API_KEY" a.apiKey) : Appoints env (some a)
  | none (h : ∀ name ∈ authorityNames, env.Unset name) : Appoints env none

structure Valid (env : Environment) : Prop where
  databaseUrl : ¬ env.Unset "DATABASE_URL"
  portNumber : env.Permits "PORT" (Literal.IsNatural 0xffff)
  l1Window : env.Permits "RATE_L1_TTL_SECS" Literal.IsSeconds
  syncInterval : env.Permits "RATE_SYNC_INTERVAL_SECS" Literal.IsSeconds
  providerTimeout : env.Permits "PROVIDER_TIMEOUT_SECS" (Literal.IsNatural 0xffffffffffffffff)
  fixedRates : env.Permits "ENABLE_FIXED_RATES" Literal.IsTruth
  authority : (∀ name ∈ authorityNames, env.Unset name) ∨
    (∀ name ∈ authorityNames, ¬ env.Unset name) ∧
      ∃ code c, env "AUTHORITATIVE_CURRENCY" = some code ∧ CurrencyCode.parse code = .ok c

structure Carries (env : Environment) (s : Settings) : Prop where
  databaseUrl : env.Contains "DATABASE_URL" (some s.databaseUrl)
  redisUrl : env.Contains "REDIS_URL" s.redisUrl
  portNumber : env.Says "PORT" (Literal.IsNatural 0xffff) 3000 s.portNumber
  l1Window : ∃ n, env.Says "RATE_L1_TTL_SECS" Literal.IsSeconds 300 n ∧
    s.l1Window = Span.ofSeconds n
  syncInterval : ∃ n, env.Says "RATE_SYNC_INTERVAL_SECS" Literal.IsSeconds 86400 n ∧
    s.syncInterval = Span.ofSeconds n
  providerTimeout :
    env.Says "PROVIDER_TIMEOUT_SECS" (Literal.IsNatural 0xffffffffffffffff) 10 s.providerTimeout
  fixedRates : env.Says "ENABLE_FIXED_RATES" Literal.IsTruth false s.fixedRates
  authority : env.Appoints s.authority

section Variables

variable {env : Environment} {name : String} {o : Option String}

theorem value?_eq_none_iff : env.value? name = none ↔ env.Unset name := by
  rw [value?, Option.filter_eq_none_iff]
  refine forall_congr' fun s ↦ imp_congr_right fun _ ↦ ?_
  rw [decide_eq_true_eq, Classical.not_not, trim_eq_nil_iff]

theorem contains_iff : env.Contains name o ↔ env.value? name = o := by
  constructor
  · rintro (⟨h, hset⟩ | h)
    · obtain ⟨s, hs⟩ := Option.ne_none_iff_exists'.1 (mt value?_eq_none_iff.1 hset)
      obtain rfl := Option.some.inj (h.symm.trans (Option.filter_eq_some_iff.1 hs).1)
      exact hs
    · exact value?_eq_none_iff.2 h
  · rintro rfl
    cases hvalue : env.value? name with
    | none => exact .unset (value?_eq_none_iff.1 hvalue)
    | some s =>
      refine .given (Option.filter_eq_some_iff.1 hvalue).1 fun hunset ↦ ?_
      exact nomatch hvalue.symm.trans (value?_eq_none_iff.2 hunset)

theorem exists_contains_iff : (∃ s, env.Contains name (some s)) ↔ ¬ env.Unset name := by
  rw [← value?_eq_none_iff, ← ne_eq, Option.ne_none_iff_exists']
  exact exists_congr fun s ↦ contains_iff

variable {α : Type} {kind : List Char → α → Prop} {unset a : α}

theorem literal_says_iff {read : List Char → Except LiteralFault α}
    (hread : ∀ s b, read s = .ok b ↔ kind s b) :
    env.literal name read unset = .ok a ↔ env.Says name kind unset a := by
  rw [literal]
  constructor
  · intro h
    split at h
    · next hs => exact .given (contains_iff.2 hs) ((hread _ _).1 (mapError_eq_ok_iff.1 h))
    · next hs =>
      obtain rfl := Except.ok.inj h
      exact .unset (value?_eq_none_iff.1 hs)
  · rintro (⟨h, ha⟩ | h)
    · rw [contains_iff.1 h]
      exact mapError_eq_ok_iff.2 ((hread _ _).2 ha)
    · rw [value?_eq_none_iff.2 h]

theorem natural_says_iff {most n unset : Nat} :
    env.literal name (Literal.natural most) unset = .ok n ↔
      env.Says name (Literal.IsNatural most) unset n :=
  literal_says_iff fun _ _ ↦ Literal.natural_eq_ok_iff

theorem truth_says_iff {unset b : Bool} :
    env.literal name Literal.truth unset = .ok b ↔ env.Says name Literal.IsTruth unset b :=
  literal_says_iff fun _ _ ↦ Literal.truth_eq_ok_iff

theorem lasts_says_iff {n unset : Int} (hpos : 0 < unset) :
    env.Lasts name unset n ↔ env.Says name Literal.IsSeconds unset n := by
  constructor
  · rintro (⟨h, hwrites, hn, hfits⟩ | ⟨h, -⟩)
    · exact .given (contains_iff.2 h) ⟨hwrites, hn, hfits⟩
    · exact .unset (value?_eq_none_iff.1 h)
  · rintro (⟨h, hwrites, hn, hfits⟩ | h)
    · exact .given (contains_iff.1 h) hwrites hn hfits
    · exact .unset (value?_eq_none_iff.2 h) hpos

theorem permits_iff (unset : α) : env.Permits name kind ↔ ∃ a, env.Says name kind unset a := by
  constructor
  · rintro (h | ⟨s, a, hs, ha⟩)
    · exact ⟨unset, .unset h⟩
    · by_cases hunset : env.Unset name
      · exact ⟨unset, .unset hunset⟩
      · exact ⟨a, .given (.given hs hunset) ha⟩
  · rintro ⟨a, ⟨⟨h, -⟩, ha⟩ | h⟩
    · exact .inr ⟨_, a, h, ha⟩
    · exact .inl h

end Variables

section Authority

variable {env : Environment} {o : Option Authority} {a : Authority}

theorem forall_authorityNames_iff {p : String → Prop} : (∀ name ∈ authorityNames, p name) ↔
    p "AUTHORITATIVE_CURRENCY" ∧ p "AUTHORITATIVE_PROVIDER_ID" ∧ p "AUTHORITATIVE_ENDPOINT" := by
  simp [authorityNames]

theorem authority_appoints_iff : env.authority = .ok o ↔ env.Appoints o := by
  rw [authority]
  constructor
  · intro h
    -- none of the three, all of them, or some but not all
    split at h
    · next hcode hprovider hendpoint =>
      obtain rfl := Except.ok.inj h
      refine .none (forall_authorityNames_iff.2 ?_)
      exact ⟨value?_eq_none_iff.1 hcode, value?_eq_none_iff.1 hprovider,
        value?_eq_none_iff.1 hendpoint⟩
    · next hcode hprovider hendpoint =>
      obtain ⟨c, hc, h⟩ := bind_eq_ok_iff.1 h
      obtain rfl := Except.ok.inj h
      exact .all (contains_iff.2 hcode) (mapError_eq_ok_iff.1 hc) (contains_iff.2 hprovider)
        (contains_iff.2 hendpoint) (contains_iff.2 rfl)
    · nomatch h
  · rintro (⟨hcode, hcurrency, hprovider, hendpoint, hkey⟩ | h)
    · rw [contains_iff.1 hcode, contains_iff.1 hprovider, contains_iff.1 hendpoint,
        contains_iff.1 hkey]
      exact bind_eq_ok_iff.2 ⟨_, mapError_eq_ok_iff.2 hcurrency, rfl⟩
    · obtain ⟨hcode, hprovider, hendpoint⟩ := forall_authorityNames_iff.1 h
      rw [value?_eq_none_iff.2 hcode, value?_eq_none_iff.2 hprovider,
        value?_eq_none_iff.2 hendpoint]

theorem Appoints.set (h : env.Appoints (some a)) : ∀ name ∈ authorityNames, ¬ env.Unset name := by
  obtain ⟨hcode, -, hprovider, hendpoint, -⟩ := h
  refine forall_authorityNames_iff.2 ⟨?_, ?_, ?_⟩
  · exact exists_contains_iff.1 ⟨_, hcode⟩
  · exact exists_contains_iff.1 ⟨_, hprovider⟩
  · exact exists_contains_iff.1 ⟨_, hendpoint⟩

theorem Appoints.unset (h : env.Appoints (Option.none : Option Authority)) :
    ∀ name ∈ authorityNames, env.Unset name := by
  cases h with
  | none h => exact h

theorem exists_appoints_iff : (∃ o, env.Appoints o) ↔ (∀ name ∈ authorityNames, env.Unset name) ∨
    (∀ name ∈ authorityNames, ¬ env.Unset name) ∧
      ∃ code c, env "AUTHORITATIVE_CURRENCY" = some code ∧ CurrencyCode.parse code = .ok c := by
  constructor
  · rintro ⟨o, h⟩
    cases o with
    | none => exact .inl h.unset
    | some a =>
      have hset := h.set
      obtain ⟨⟨hcode, -⟩, hcurrency, -⟩ := h
      exact .inr ⟨hset, _, _, hcode, hcurrency⟩
  · rintro (h | ⟨hset, code, c, hcode, hcurrency⟩)
    · exact ⟨none, .none h⟩
    · obtain ⟨hset, hprovider, hendpoint⟩ := forall_authorityNames_iff.1 hset
      obtain ⟨provider, hprovider⟩ := exists_contains_iff.2 hprovider
      obtain ⟨endpoint, hendpoint⟩ := exists_contains_iff.2 hendpoint
      have hkey : env.Contains "AUTHORITATIVE_API_KEY" (env.value? "AUTHORITATIVE_API_KEY") :=
        contains_iff.2 rfl
      exact ⟨some ⟨c, provider, endpoint, _⟩,
        .all (.given hcode hset) hcurrency hprovider hendpoint hkey⟩

theorem Appoints.isSome_iff (h : env.Appoints o) :
    o.isSome ↔ ∀ name ∈ authorityNames, ¬ env.Unset name := by
  cases o with
  | some a => exact iff_of_true rfl h.set
  | none =>
    have hfirst : "AUTHORITATIVE_CURRENCY" ∈ authorityNames := List.mem_cons_self
    exact iff_of_false nofun fun hset ↦ hset _ hfirst (h.unset _ hfirst)

end Authority

section Carries

variable {env : Environment} {s : Settings}

theorem carries_iff_gives : env.Carries s ↔ env.Gives s := by
  constructor
  · intro h
    obtain ⟨n, hn, hl1⟩ := h.l1Window
    obtain ⟨m, hm, hsync⟩ := h.syncInterval
    exact {
      portNumber := natural_says_iff.2 h.portNumber
      databaseUrl := contains_iff.1 h.databaseUrl
      redisUrl := contains_iff.1 h.redisUrl
      l1Window := ⟨n, (lasts_says_iff (by decide)).2 hn, hl1⟩
      syncInterval := ⟨m, (lasts_says_iff (by decide)).2 hm, hsync⟩
      authority := authority_appoints_iff.2 h.authority
      providerTimeout := natural_says_iff.2 h.providerTimeout
      fixedRates := truth_says_iff.2 h.fixedRates }
  · intro h
    obtain ⟨n, hn, hl1⟩ := h.l1Window
    obtain ⟨m, hm, hsync⟩ := h.syncInterval
    exact {
      databaseUrl := contains_iff.2 h.databaseUrl
      redisUrl := contains_iff.2 h.redisUrl
      portNumber := natural_says_iff.1 h.portNumber
      l1Window := ⟨n, (lasts_says_iff (by decide)).1 hn, hl1⟩
      syncInterval := ⟨m, (lasts_says_iff (by decide)).1 hm, hsync⟩
      providerTimeout := natural_says_iff.1 h.providerTimeout
      fixedRates := truth_says_iff.1 h.fixedRates
      authority := authority_appoints_iff.1 h.authority }

theorem Valid.exists_carries (h : env.Valid) : ∃ s, env.Carries s := by
  obtain ⟨url, hurl⟩ := exists_contains_iff.2 h.databaseUrl
  obtain ⟨portNumber, hport⟩ := (permits_iff 3000).1 h.portNumber
  obtain ⟨n, hn⟩ := (permits_iff 300).1 h.l1Window
  obtain ⟨m, hm⟩ := (permits_iff 86400).1 h.syncInterval
  obtain ⟨timeout, htimeout⟩ := (permits_iff 10).1 h.providerTimeout
  obtain ⟨fixedRates, hfixed⟩ := (permits_iff false).1 h.fixedRates
  obtain ⟨authority, hauthority⟩ := exists_appoints_iff.2 h.authority
  have hredis : env.Contains "REDIS_URL" (env.value? "REDIS_URL") := contains_iff.2 rfl
  exact ⟨⟨portNumber, url, _, Span.ofSeconds n, Span.ofSeconds m, authority, timeout, fixedRates⟩,
    hurl, hredis, hport, ⟨n, hn, rfl⟩, ⟨m, hm, rfl⟩, htimeout, hfixed, hauthority⟩

theorem Carries.valid (h : env.Carries s) : env.Valid := by
  obtain ⟨n, hn, -⟩ := h.l1Window
  obtain ⟨m, hm, -⟩ := h.syncInterval
  exact {
    databaseUrl := exists_contains_iff.1 ⟨_, h.databaseUrl⟩
    portNumber := (permits_iff 3000).2 ⟨_, h.portNumber⟩
    l1Window := (permits_iff 300).2 ⟨n, hn⟩
    syncInterval := (permits_iff 86400).2 ⟨m, hm⟩
    providerTimeout := (permits_iff 10).2 ⟨_, h.providerTimeout⟩
    fixedRates := (permits_iff false).2 ⟨_, h.fixedRates⟩
    authority := exists_appoints_iff.1 ⟨_, h.authority⟩ }

end Carries

section Windows

variable {env : Environment} {s : Settings}

/-- No variable that gives a window holds more seconds than there is room for, though they fit 64
bits. -/
def WindowsFit (env : Environment) : Prop :=
  ∀ name ∈ windowNames, ∀ s n, env name = some s → Literal.Writes (trim s.toList) n →
    n ≤ 0x7fffffffffffffff → n ≤ Settings.longestSeconds

theorem WindowsFit.le_of_said {name : String} {unset n : Int} (h : env.WindowsFit)
    (hname : name ∈ windowNames) (hunset : unset ≤ Settings.longestSeconds)
    (hn : env.Says name Literal.IsSeconds unset n) : n ≤ Settings.longestSeconds := by
  rcases hn with ⟨⟨hgiven, -⟩, hwrites, -, hfits⟩ | -
  · exact h name hname _ n hgiven hwrites hfits
  · exact hunset

theorem WindowsFit.fits (h : env.WindowsFit) (hs : env.Carries s) : s.Fits := by
  obtain ⟨n, hn, hl1⟩ := hs.l1Window
  obtain ⟨m, hm, hsync⟩ := hs.syncInterval
  rw [Settings.Fits, hl1, hsync, Settings.ofSeconds_le_longestWindow_iff,
    Settings.ofSeconds_le_longestWindow_iff]
  exact ⟨h.le_of_said (by simp [windowNames]) (by decide) hn,
    h.le_of_said (by simp [windowNames]) (by decide) hm⟩

theorem Says.pos {name : String} {unset n : Int} (hunset : 0 < unset)
    (hn : env.Says name Literal.IsSeconds unset n) : 0 < n := by
  rcases hn with ⟨-, -, hpos, -⟩ | -
  · exact hpos
  · exact hunset

theorem Carries.windows_pos (h : env.Carries s) : 0 < s.l1Window ∧ 0 < s.syncInterval := by
  obtain ⟨n, hn, hl1⟩ := h.l1Window
  obtain ⟨m, hm, hsync⟩ := h.syncInterval
  have hnpos := hn.pos (by decide)
  have hmpos := hm.pos (by decide)
  rw [hl1, hsync, Span.ofSeconds, Span.ofSeconds]
  omega

end Windows

section Matches

variable {env env' : Environment}

/-- The environments hold the same in every variable that is read, but one may be missing in one
and blank in the other. -/
def Matches (env env' : Environment) : Prop :=
  ∀ name ∈ names, env' name = env name ∨ env'.Unset name ∧ env.Unset name

theorem Matches.value? (h : env.Matches env') :
    ∀ name ∈ names, env'.value? name = env.value? name := by
  intro name hname
  rcases h name hname with heq | ⟨hunset', hunset⟩
  · rw [Environment.value?, Environment.value?, heq]
  · rw [value?_eq_none_iff.2 hunset', value?_eq_none_iff.2 hunset]

theorem Matches.read (h : env.Matches env') : Settings.read env' = Settings.read env := by
  have hvalue := h.value?
  simp only [names, windowNames, authorityNames, List.cons_append, List.nil_append,
    List.forall_mem_cons] at hvalue
  obtain ⟨hport, hurl, hredis, htimeout, hfixed, hkey, hl1, hsync, hcode, hprovider, hendpoint,
    -⟩ := hvalue
  simp only [Settings.read, literal, authority, hport, hurl, hredis, htimeout, hfixed, hkey, hl1,
    hsync, hcode, hprovider, hendpoint]

def without (env : Environment) (name : String) : Environment :=
  fun other ↦ if other = name then none else env other

theorem matches_without {name : String} (h : env.Unset name) : env.Matches (env.without name) := by
  intro other _
  by_cases hother : other = name
  · subst hother
    refine .inr ⟨fun s hs ↦ ?_, h⟩
    rw [without, if_pos rfl] at hs
    nomatch hs
  · exact .inl (if_neg hother)

end Matches

end Environment

namespace Settings

/-- Settings are loaded from the environments that are valid, and they are what the variables say;
any other environment is refused. Blank variables count as missing, and no others are read. -/
theorem load_accepts (env : Environment) (hfit : env.WindowsFit) :
    ((∃ s, load env = .loaded s) ↔ env.Valid) ∧
    (¬ env.Valid → ∃ e, load env = .refused e) ∧
    (∀ s, load env = .loaded s ↔ env.Carries s) ∧
    (∀ s, load env = .loaded s → 0 < s.l1Window ∧ 0 < s.syncInterval ∧
      (s.authority.isSome ↔ ∀ name ∈ Environment.authorityNames, ¬ env.Unset name)) ∧
    ∀ env', env.Matches env' → load env' = load env := by
  have hloaded : ∀ s, load env = .loaded s ↔ env.Carries s := by
    intro s
    rw [load_eq_loaded_iff, ← Environment.carries_iff_gives]
    exact and_iff_left_of_imp hfit.fits
  refine ⟨?_, ?_, hloaded, ?_, ?_⟩
  · constructor
    · rintro ⟨s, hs⟩
      exact ((hloaded s).1 hs).valid
    · intro hvalid
      obtain ⟨s, hs⟩ := hvalid.exists_carries
      exact ⟨s, (hloaded s).2 hs⟩
  · intro hvalid
    refine load_eq_refused_iff.2 fun s hs ↦ hvalid ?_
    exact (Environment.carries_iff_gives.2 hs).valid
  · intro s hs
    have hcarries := (hloaded s).1 hs
    obtain ⟨hl1, hsync⟩ := hcarries.windows_pos
    exact ⟨hl1, hsync, hcarries.authority.isSome_iff⟩
  · intro env' hmatches
    rw [load, load, hmatches.read]

section Feed

def feedEnv : Environment
  | "PORT" => some " 8080\n"
  | "DATABASE_URL" => some "sqlite://data/rates.db"
  | "REDIS_URL" => some "  "
  | "RATE_L1_TTL_SECS" => some "60"
  | "AUTHORITATIVE_CURRENCY" => some "krw "
  | "AUTHORITATIVE_PROVIDER_ID" => some "central-bank"
  | "AUTHORITATIVE_ENDPOINT" => some "https://feed.example/v1/exchange"
  | "AUTHORITATIVE_API_KEY" => some "\t"
  | "PROVIDER_TIMEOUT_SECS" => some "+3"
  | "ENABLE_FIXED_RATES" => some "true"
  | _ => none

def feedSettings (c : CurrencyCode) : Settings where
  portNumber := 8080
  databaseUrl := "sqlite://data/rates.db"
  redisUrl := none
  l1Window := Span.ofSeconds 60
  syncInterval := Span.ofSeconds 86400
  authority := some ⟨c, "central-bank", "https://feed.example/v1/exchange", none⟩
  providerTimeout := 3
  fixedRates := true

theorem load_accepts_feed : feedEnv.WindowsFit ∧ feedEnv.Valid ∧
    feedEnv.Matches (feedEnv.without "REDIS_URL") ∧
    ∃ c, CurrencyCode.parse "KRW" = .ok c ∧ feedEnv.Carries (feedSettings c) ∧
      load (feedEnv.without "REDIS_URL") = .loaded (feedSettings c) := by
  have hfit : feedEnv.WindowsFit := by
    simp only [Environment.WindowsFit, Environment.windowNames, List.forall_mem_cons]
    refine ⟨?_, nofun, fun _ h ↦ absurd h List.not_mem_nil⟩
    rintro _ n ⟨⟩ hwrites -
    have htrim : trim "60".toList = ['6', '0'] := by decide
    rw [htrim, Literal.writes_iff_of_no_sign (by simp) (by simp)] at hwrites
    obtain ⟨-, rfl⟩ := hwrites
    decide
  have hunset : feedEnv.Unset "REDIS_URL" := by
    rintro _ ⟨⟩
    exact List.all_eq_true.1 (by decide)
  have hmatches := Environment.matches_without hunset
  obtain ⟨c, hc, hload⟩ : ∃ c, CurrencyCode.parse "KRW" = .ok c ∧
      load feedEnv = .loaded (feedSettings c) :=
    ⟨⟨⟨'K', by decide⟩, ⟨'R', by decide⟩, ⟨'W', by decide⟩⟩, rfl, by decide +kernel⟩
  obtain ⟨hvalid, -, hcarries, -, hsame⟩ := load_accepts feedEnv hfit
  exact ⟨hfit, hvalid.1 ⟨_, hload⟩, hmatches, c, hc, (hcarries _).1 hload,
    (hsame _ hmatches).trans hload⟩

end Feed

end Settings

end TieredRates

import AssetGraph.Proofs.Except
import AssetGraph.Settings
/-!
# Which settings are accepted

Six variables may be at fault: two must be given, and four must hold numbers where they hold anything
(`Settings.demands`).  Each step of reading the settings goes by the demand on its variable, and steps that
follow one another go by their demands in turn (`Settings.GoesBy.bind`), so an environment is refused for the
first demand that it does not meet (`Settings.accepts_what_is_well_formed`).  What is read says what the
environment does (`Settings.follows_of_ofLookup`).  A user and a password count only where both are given; the
reader of the topic then presents them on an encrypted connection (`KafkaSettings.mem_clientConfig_iff`).
-/
namespace AssetGraph

namespace Settings

/-- A variable that holds a text, and not the empty one. -/
def Holds (lookup : Lookup) (name value : String) : Prop := lookup name = some value ∧ value ≠ ""

/-- **A text that spells a number**: its digits, behind at most one plus sign, and blanks around them. -/
def Spells (value : String) (n : Nat) : Prop :=
  ∃ front sign ds back, value.toList = front ++ (sign ++ ds) ++ back ∧
    (∀ c ∈ front, Text.isBlank c = true) ∧ (∀ c ∈ back, Text.isBlank c = true) ∧ (sign = [] ∨ sign = ['+']) ∧
    Decimal.isNumeral ds = true ∧ Decimal.ofDigits ds = n

/-- **What is asked of a variable**: that it holds something, or that it holds a number below a limit where it
holds anything. -/
inductive Demand where
  | given (name : String)
  | number (name : String) (limit : Nat)
deriving DecidableEq, Repr

namespace Demand

/-- The variable. -/
def name : Demand → String
  | given name => name
  | number name _ => name

/-- **An environment meets a demand.** -/
def IsMet (lookup : Lookup) : Demand → Prop
  | given name => ∃ value, Holds lookup name value
  | number name limit => ∀ value, Holds lookup name value → ∃ n, Spells value n ∧ n < limit

/-- The fault of an environment that does not. -/
def fault (lookup : Lookup) : Demand → ConfigFault
  | given name => .required name
  | number name _ => .invalid name ((lookup name).getD "")

/-- A fault says first which variable it is about. -/
theorem message_fault (lookup : Lookup) (d : Demand) : ∃ rest, (d.fault lookup).message = d.name ++ rest := by
  cases d with
  | given name =>
    exact ⟨" is required", rfl⟩
  | number name limit =>
    exact ⟨" has an invalid value: " ++ Text.quoted ((lookup name).getD ""), String.append_assoc⟩

end Demand

/-- **All that is asked of an environment**, in the order in which it is looked at. -/
def demands : List Demand :=
  [.given "KAFKA_BOOTSTRAP_SERVERS", .number "KAFKA_AUTO_COMMIT_INTERVAL_MS" Decimal.limit32,
    .given "INVENTORY_ENDPOINT", .number "INVENTORY_TIMEOUT_SECS" Decimal.limit64,
    .number "RETRY_DURATION_SECS" Decimal.limit64, .number "POLL_TIMEOUT_MS" Decimal.limit64]

variable {α β : Type} {lookup lookup' : Lookup} {name value : String} {limit default n : Nat}

theorem nonEmpty_eq_some_iff : nonEmpty lookup name = some value ↔ Holds lookup name value := by
  rw [nonEmpty, Option.filter_eq_some_iff, Bool.not_eq_true', ← Bool.not_eq_true, String.isEmpty_iff, Holds]

/-! ## One variable -/

/-- No sign and no digit is a blank. -/
theorem isBlank_of_mem_signed {sign ds : List Char} (hs : sign = [] ∨ sign = ['+'])
    (hn : Decimal.isNumeral ds = true) : ∀ c ∈ sign ++ ds, Text.isBlank c = false := by
  intro c hc
  rcases List.mem_append.1 hc with hc | hc
  · rcases hs with rfl | rfl
    · cases hc
    · rw [List.mem_singleton.1 hc]
      decide
  · rw [Decimal.isNumeral, Bool.and_eq_true] at hn
    exact Text.isBlank_of_isDigit (List.all_eq_true.1 hn.2 c hc)

/-- **What is read as a number.** -/
theorem bounded?_trim_eq_some_iff :
    Decimal.bounded? limit (Text.trim value.toList) = some n ↔ Spells value n ∧ n < limit := by
  rw [Decimal.bounded?_eq_some_iff_signed]
  constructor
  · rintro ⟨sign, ds, htrim, hs, hn, hvalue, hlt⟩
    obtain ⟨front, back, he, hf, hb⟩ := Text.exists_trim value.toList
    rw [htrim] at he
    exact ⟨⟨front, sign, ds, back, he, hf, hb, hs, hn, hvalue⟩, hlt⟩
  · rintro ⟨⟨front, sign, ds, back, he, hf, hb, hs, hn, hvalue⟩, hlt⟩
    rw [he, Text.trim_framed hf hb (isBlank_of_mem_signed hs hn)]
    exact ⟨sign, ds, rfl, hs, hn, hvalue, hlt⟩

theorem isMet_given_iff : (Demand.given name).IsMet lookup ↔ (nonEmpty lookup name).isSome = true := by
  simp only [Demand.IsMet, Option.isSome_iff_exists, nonEmpty_eq_some_iff]

theorem isMet_number_iff : (Demand.number name limit).IsMet lookup ↔
    (nonEmpty lookup name).all (fun value =>
      (Decimal.bounded? limit (Text.trim value.toList)).isSome) = true := by
  simp only [Demand.IsMet, Option.all_eq_true, Option.isSome_iff_exists, nonEmpty_eq_some_iff,
    bounded?_trim_eq_some_iff]

instance (lookup : Lookup) : (d : Demand) → Decidable (d.IsMet lookup)
  | .given _ => decidable_of_iff _ isMet_given_iff.symm
  | .number _ _ => decidable_of_iff _ isMet_number_iff.symm

/-! ## One after another -/

/-- **The first demand that an environment does not meet.** -/
def FirstUnmet (lookup : Lookup) (ds : List Demand) (d : Demand) : Prop :=
  ∃ before after, ds = before ++ d :: after ∧ (∀ b ∈ before, b.IsMet lookup) ∧ ¬ d.IsMet lookup

/-- **A reading that goes by demands**: it succeeds if all are met, and fails for the first that is not. -/
def GoesBy (lookup : Lookup) (ds : List Demand) (x : Except ConfigFault α) : Prop :=
  match ds.find? fun d => !decide (d.IsMet lookup) with
  | none => ∃ a, x = .ok a
  | some d => x = .error (d.fault lookup)

theorem goesBy_required : GoesBy lookup [.given name] (required lookup name) := by
  rw [GoesBy, List.find?_singleton, required]
  simp only [isMet_given_iff]
  cases nonEmpty lookup name with
  | none => rfl
  | some value => exact ⟨value, rfl⟩

theorem goesBy_number : GoesBy lookup [.number name limit] (number lookup name limit default) := by
  rw [GoesBy, List.find?_singleton, number]
  simp only [isMet_number_iff]
  cases hv : nonEmpty lookup name with
  | none => exact ⟨default, rfl⟩
  | some value =>
    cases hn : Decimal.bounded? limit (Text.trim value.toList) with
    | some n => simp [hn]
    | none =>
      have hlookup : lookup name = some value := (nonEmpty_eq_some_iff.1 hv).1
      simp [hn, Demand.fault, hlookup]

theorem goesBy_pure (a : α) : GoesBy lookup [] (pure a) := ⟨a, rfl⟩

/-- **Readings that follow one another go by their demands in turn.** -/
theorem GoesBy.bind {ds ds' : List Demand} {x : Except ConfigFault α} {f : α → Except ConfigFault β}
    (h : GoesBy lookup ds x) (h' : ∀ a, GoesBy lookup ds' (f a)) : GoesBy lookup (ds ++ ds') (x >>= f) := by
  rw [GoesBy] at h ⊢
  rw [List.find?_append]
  cases hd : ds.find? fun d => !decide (d.IsMet lookup) with
  | some d =>
    rw [hd] at h
    rw [h]
    rfl
  | none =>
    rw [hd] at h
    obtain ⟨a, rfl⟩ := h
    exact h' a

theorem ofLookup_goesBy (lookup : Lookup) : GoesBy lookup demands (ofLookup lookup) :=
  goesBy_required.bind fun _ => goesBy_number.bind fun _ => goesBy_required.bind fun _ =>
    goesBy_number.bind fun _ => goesBy_number.bind fun _ => goesBy_number.bind fun _ => goesBy_pure _

/-- **A reading that goes by demands succeeds if all are met.** -/
theorem GoesBy.exists_ok_iff {ds : List Demand} {x : Except ConfigFault α} (h : GoesBy lookup ds x) :
    (∃ a, x = .ok a) ↔ ∀ d ∈ ds, d.IsMet lookup := by
  rw [GoesBy] at h
  have hnone : (ds.find? fun d => !decide (d.IsMet lookup)) = none ↔ ∀ d ∈ ds, d.IsMet lookup := by
    simp only [List.find?_eq_none, Bool.not_eq_true', Bool.not_eq_false, decide_eq_true_eq]
  rw [← hnone]
  cases hd : ds.find? fun d => !decide (d.IsMet lookup) with
  | none =>
    rw [hd] at h
    exact iff_of_true h rfl
  | some d =>
    rw [hd] at h
    rw [h]
    exact iff_of_false nofun nofun

theorem find?_unmet_eq_some_iff {ds : List Demand} {d : Demand} :
    (ds.find? fun d => !decide (d.IsMet lookup)) = some d ↔ FirstUnmet lookup ds d := by
  simp only [List.find?_eq_some_iff_append, Bool.not_eq_true', decide_eq_false_iff_not, Bool.not_not,
    decide_eq_true_eq, FirstUnmet]
  constructor
  · rintro ⟨hnot, before, after, hds, hbefore⟩
    exact ⟨before, after, hds, hbefore, hnot⟩
  · rintro ⟨before, after, hds, hbefore, hnot⟩
    exact ⟨hnot, before, after, hds, hbefore⟩

/-- **It fails with the fault of the first that is not met.** -/
theorem GoesBy.eq_error_iff {ds : List Demand} {x : Except ConfigFault α} (h : GoesBy lookup ds x)
    (e : ConfigFault) : x = .error e ↔ ∃ d, FirstUnmet lookup ds d ∧ e = d.fault lookup := by
  rw [GoesBy] at h
  constructor
  · rintro rfl
    cases hd : ds.find? fun d => !decide (d.IsMet lookup) with
    | none =>
      rw [hd] at h
      obtain ⟨a, ha⟩ := h
      cases ha
    | some d =>
      rw [hd] at h
      exact ⟨d, find?_unmet_eq_some_iff.1 hd, Except.error.inj h⟩
  · rintro ⟨d, hd, rfl⟩
    rw [find?_unmet_eq_some_iff.2 hd] at h
    exact h

/-! ## Empty variables -/

/-- All that counts is which variables hold what. -/
theorem ofLookup_congr (h : ∀ name, nonEmpty lookup name = nonEmpty lookup' name) :
    ofLookup lookup = ofLookup lookup' := by
  simp only [ofLookup, required, number, credentials, h]

/-- An environment in which the empty variables are not set at all. -/
def unsetEmpty (lookup : Lookup) : Lookup := fun name => if lookup name = some "" then none else lookup name

theorem nonEmpty_unsetEmpty (lookup : Lookup) (name : String) :
    nonEmpty (unsetEmpty lookup) name = nonEmpty lookup name := by
  refine Option.ext fun value => ?_
  rw [nonEmpty_eq_some_iff, nonEmpty_eq_some_iff, Holds, Holds, unsetEmpty]
  by_cases h : lookup name = some ""
  · rw [if_pos h, h]
    refine iff_of_false nofun ?_
    rintro ⟨⟨⟩, hne⟩
    exact hne rfl
  · rw [if_neg h]

/-! ## What settings say -/

/-- **A number that a variable stands for**: the one that it spells, or a default where it holds nothing. -/
def StandsFor (lookup : Lookup) (name : String) (default n : Nat) : Prop :=
  (∀ value, Holds lookup name value → Spells value n) ∧ ((∀ value, ¬ Holds lookup name value) → n = default)

/-- **Settings that say what an environment does.** -/
structure Follows (lookup : Lookup) (s : Settings) : Prop where
  brokers : Holds lookup "KAFKA_BOOTSTRAP_SERVERS" s.kafka.brokers
  autoCommitMs : StandsFor lookup "KAFKA_AUTO_COMMIT_INTERVAL_MS" 5000 s.kafka.autoCommitMs
  credentials : ∀ c, s.kafka.credentials = some c ↔
    Holds lookup "KAFKA_USERNAME" c.username ∧ Holds lookup "KAFKA_PASSWORD" c.password
  endpoint : Holds lookup "INVENTORY_ENDPOINT" s.inventory.endpoint
  timeoutSecs : StandsFor lookup "INVENTORY_TIMEOUT_SECS" 30 s.inventory.timeoutSecs
  retrySecs : StandsFor lookup "RETRY_DURATION_SECS" 5 s.retrySecs
  pollMs : StandsFor lookup "POLL_TIMEOUT_MS" 100 s.pollMs

theorem holds_of_required (h : required lookup name = .ok value) : Holds lookup name value := by
  rw [required] at h
  cases hv : nonEmpty lookup name with
  | none =>
    rw [hv] at h
    cases h
  | some held =>
    rw [hv] at h
    exact Except.ok.inj h ▸ nonEmpty_eq_some_iff.1 hv

theorem standsFor_of_number (h : number lookup name limit default = .ok n) : StandsFor lookup name default n := by
  rw [number] at h
  simp only [StandsFor, ← nonEmpty_eq_some_iff]
  cases hv : nonEmpty lookup name with
  | none =>
    rw [hv] at h
    exact ⟨fun _ => nofun, fun _ => (Except.ok.inj h).symm⟩
  | some value =>
    rw [hv] at h
    refine ⟨fun held hheld => ?_, fun hnone => absurd rfl (hnone value)⟩
    cases hheld
    cases hn : Decimal.bounded? limit (Text.trim value.toList) with
    | none => simp only [hn, reduceCtorEq] at h
    | some m =>
      simp only [hn, Except.ok.injEq] at h
      exact h ▸ (bounded?_trim_eq_some_iff.1 hn).1

theorem credentials_eq_some_iff {c : Credentials} : credentials lookup = some c ↔
    Holds lookup "KAFKA_USERNAME" c.username ∧ Holds lookup "KAFKA_PASSWORD" c.password := by
  obtain ⟨username, password⟩ := c
  rw [← nonEmpty_eq_some_iff, ← nonEmpty_eq_some_iff, credentials]
  cases nonEmpty lookup "KAFKA_USERNAME" with
  | none => exact iff_of_false nofun nofun
  | some u =>
    cases nonEmpty lookup "KAFKA_PASSWORD" with
    | none => exact iff_of_false nofun nofun
    | some p => simp

/-- **What is read is what the environment says.** -/
theorem follows_of_ofLookup {s : Settings} (h : ofLookup lookup = .ok s) : s.Follows lookup := by
  rw [ofLookup] at h
  obtain ⟨brokers, hbrokers, h⟩ := Except.bind_eq_ok_iff.1 h
  obtain ⟨autoCommitMs, hcommit, h⟩ := Except.bind_eq_ok_iff.1 h
  obtain ⟨endpoint, hendpoint, h⟩ := Except.bind_eq_ok_iff.1 h
  obtain ⟨timeoutSecs, htimeout, h⟩ := Except.bind_eq_ok_iff.1 h
  obtain ⟨retrySecs, hretry, h⟩ := Except.bind_eq_ok_iff.1 h
  obtain ⟨pollMs, hpoll, h⟩ := Except.bind_eq_ok_iff.1 h
  cases h
  exact ⟨holds_of_required hbrokers, standsFor_of_number hcommit, fun _ => credentials_eq_some_iff,
    holds_of_required hendpoint, standsFor_of_number htimeout, standsFor_of_number hretry,
    standsFor_of_number hpoll⟩

theorem Follows.isSome_credentials_iff {s : Settings} (h : s.Follows lookup) :
    s.kafka.credentials.isSome = true ↔ ∃ username password,
      Holds lookup "KAFKA_USERNAME" username ∧ Holds lookup "KAFKA_PASSWORD" password := by
  simp only [Option.isSome_iff_exists, h.credentials]
  exact ⟨fun ⟨c, hc⟩ => ⟨c.username, c.password, hc⟩, fun ⟨username, password, hc⟩ => ⟨{ username, password }, hc⟩⟩

end Settings

namespace KafkaSettings

/-- **No property of the topic's reader is set twice.** -/
theorem nodup_clientConfig (k : KafkaSettings) : (k.clientConfig.map Prod.fst).Nodup := by
  rw [clientConfig, securityConfig]
  cases k.credentials with
  | none => exact of_decide_eq_true rfl
  | some c =>
    cases k.sslCaPem with
    | none => exact of_decide_eq_true rfl
    | some pem => exact of_decide_eq_true rfl

/-- The properties that name a user, the password and how the two are checked. -/
def saslKeys : List String := ["sasl.username", "sasl.password", "sasl.mechanisms"]

/-- Where there are credentials, the reader presents them on an encrypted connection. -/
theorem mem_clientConfig_of_credentials {k : KafkaSettings} {c : Credentials} (h : k.credentials = some c) :
    ("security.protocol", "SASL_SSL") ∈ k.clientConfig ∧ ("sasl.username", c.username) ∈ k.clientConfig ∧
      ("sasl.password", c.password) ∈ k.clientConfig ∧ ("sasl.mechanisms", k.saslMechanism) ∈ k.clientConfig := by
  rw [clientConfig, securityConfig, h]
  simp

/-- **The reader names a user, a password and a mechanism, and an encrypted connection, just where there are
credentials**: all four properties or none. -/
theorem mem_clientConfig_iff (k : KafkaSettings) :
    (∀ key ∈ saslKeys, (∃ value, (key, value) ∈ k.clientConfig) ↔ k.credentials.isSome = true) ∧
    (("security.protocol", "SASL_SSL") ∈ k.clientConfig ↔ k.credentials.isSome = true) := by
  cases h : k.credentials with
  | some c =>
    obtain ⟨hprotocol, hname, hpassword, hmechanism⟩ := mem_clientConfig_of_credentials h
    simp only [saslKeys, List.forall_mem_cons, Option.isSome_some, iff_true]
    exact ⟨⟨⟨_, hname⟩, ⟨_, hpassword⟩, ⟨_, hmechanism⟩, nofun⟩, hprotocol⟩
  | none =>
    simp [clientConfig, securityConfig, h, saslKeys]

end KafkaSettings

namespace Settings

/-- **Settings are accepted exactly when they are well formed.**  Take any environment; an empty variable in it
is as good as none.  Settings are read from it exactly if it meets all demands, and otherwise the first that it
does not meet is the fault, whose text begins with the variable's name.  What is read says what the environment
does.  The reader of the topic names a user, a password and a mechanism, each of them exactly if it asks for an
encrypted connection, and that exactly if the environment holds both a user and a password; then it names these. -/
theorem accepts_what_is_well_formed (lookup : Lookup) :
    ofLookup (unsetEmpty lookup) = ofLookup lookup ∧
    ((∃ s, ofLookup lookup = .ok s) ↔ ∀ d ∈ demands, d.IsMet lookup) ∧
    (∀ e, ofLookup lookup = .error e ↔ ∃ d, FirstUnmet lookup demands d ∧ e = d.fault lookup) ∧
    (∀ d : Demand, ∃ rest, (d.fault lookup).message = d.name ++ rest) ∧
    ∀ s, ofLookup lookup = .ok s → s.Follows lookup ∧
      (s.kafka.clientConfig.map Prod.fst).Nodup ∧
      (∀ key ∈ KafkaSettings.saslKeys, (∃ value, (key, value) ∈ s.kafka.clientConfig) ↔
        ("security.protocol", "SASL_SSL") ∈ s.kafka.clientConfig) ∧
      (("security.protocol", "SASL_SSL") ∈ s.kafka.clientConfig ↔ ∃ username password,
        Holds lookup "KAFKA_USERNAME" username ∧ Holds lookup "KAFKA_PASSWORD" password) ∧
      ∀ username password, Holds lookup "KAFKA_USERNAME" username → Holds lookup "KAFKA_PASSWORD" password →
        ("sasl.username", username) ∈ s.kafka.clientConfig ∧
        ("sasl.password", password) ∈ s.kafka.clientConfig := by
  have hgoes := ofLookup_goesBy lookup
  refine ⟨ofLookup_congr (nonEmpty_unsetEmpty lookup), hgoes.exists_ok_iff, hgoes.eq_error_iff,
    Demand.message_fault lookup, fun s hs => ?_⟩
  have hfollows := follows_of_ofLookup hs
  obtain ⟨hkeys, hprotocol⟩ := s.kafka.mem_clientConfig_iff
  refine ⟨hfollows, s.kafka.nodup_clientConfig, fun key hkey => (hkeys key hkey).trans hprotocol.symm,
    hprotocol.trans hfollows.isSome_credentials_iff, fun username password hu hp => ?_⟩
  have hgiven : s.kafka.credentials = some { username, password } := (hfollows.credentials _).2 ⟨hu, hp⟩
  obtain ⟨-, hname, hpassword, -⟩ := KafkaSettings.mem_clientConfig_of_credentials hgiven
  exact ⟨hname, hpassword⟩

/-- An environment with a blank and a sign before a number, the greatest that is allowed, and an empty variable. -/
def padded : Lookup := (List.lookup ·
  [("KAFKA_BOOTSTRAP_SERVERS", "broker:9092"), ("KAFKA_AUTO_COMMIT_INTERVAL_MS", " +4294967295\n"),
    ("KAFKA_USERNAME", "indexer"), ("KAFKA_PASSWORD", "secret"), ("POLL_TIMEOUT_MS", ""),
    ("INVENTORY_ENDPOINT", "https://inventory")])

theorem accepts_what_is_well_formed_of_padded : ∃ s, ofLookup padded = .ok s ∧ s.pollMs = 100 ∧
    ("sasl.username", "indexer") ∈ s.kafka.clientConfig ∧ ("sasl.password", "secret") ∈ s.kafka.clientConfig := by
  obtain ⟨-, hok, -, -, hread⟩ := accepts_what_is_well_formed padded
  obtain ⟨s, hs⟩ := hok.2 (by decide +kernel)
  obtain ⟨hfollows, -, -, -, hpresented⟩ := hread s hs
  have hempty : padded "POLL_TIMEOUT_MS" = some "" := by decide +kernel
  have hdefault : s.pollMs = 100 := hfollows.pollMs.2 fun value hv =>
    hv.2 (Option.some.inj (hempty.symm.trans hv.1)).symm
  exact ⟨s, hs, hdefault,
    hpresented "indexer" "secret" ⟨by decide +kernel, by decide⟩ ⟨by decide +kernel, by decide⟩⟩

/-- Of two variables at fault the first is named. -/
example : ofLookup (List.lookup · [("KAFKA_BOOTSTRAP_SERVERS", "broker:9092"),
      ("KAFKA_AUTO_COMMIT_INTERVAL_MS", "4294967296"), ("RETRY_DURATION_SECS", "5s")]) =
    .error (.invalid "KAFKA_AUTO_COMMIT_INTERVAL_MS" "4294967296") := by
  cbv

end Settings

end AssetGraph

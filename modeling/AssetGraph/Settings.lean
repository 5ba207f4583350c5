import AssetGraph.Error
import AssetGraph.Text.Blank
/-!
# Settings

What the indexer is told by its environment.  A variable that is empty counts as unset; two must be
set, four hold numbers, the rest are texts.  `Settings.ofLookup` reads them, or names the first that
cannot be used; `KafkaSettings.clientConfig` is what the reader of the topic is set up with.
-/
namespace AssetGraph

structure Credentials where
  username : String
  password : String
deriving DecidableEq, Repr

/-- **How the topic is reached.** -/
structure KafkaSettings where
  brokers : String
  groupId : String
  credentials : Option Credentials
  saslMechanism : String
  sslCaPem : Option String
  autoCommitMs : Nat
deriving DecidableEq, Repr

/-- **How the inventory is reached.** -/
structure InventorySettings where
  endpoint : String
  /-- Whether certificates go unverified. -/
  isInsecure : Bool
  timeoutSecs : Nat
deriving DecidableEq, Repr

structure Settings where
  kafka : KafkaSettings
  inventory : InventorySettings
  accountKey : String
  retrySecs : Nat
  pollMs : Nat
deriving DecidableEq, Repr

namespace Settings

/-- What a name stands for in the environment. -/
abbrev Lookup : Type := String → Option String

/-- A variable that is set, and not to the empty text. -/
def nonEmpty (lookup : Lookup) (name : String) : Option String :=
  (lookup name).filter (!·.isEmpty)

def required (lookup : Lookup) (name : String) : Except ConfigFault String :=
  match nonEmpty lookup name with
  | some value => .ok value
  | none => .error (.required name)

/-- **A number that a variable holds**, blanks around it left out. -/
def number (lookup : Lookup) (name : String) (limit default : Nat) : Except ConfigFault Nat :=
  match nonEmpty lookup name with
  | none => .ok default
  | some value =>
    match Decimal.bounded? limit (Text.trim value.toList) with
    | some n => .ok n
    | none => .error (.invalid name value)

/-- A user and a password, where both are given. -/
def credentials (lookup : Lookup) : Option Credentials := do
  let username ← nonEmpty lookup "KAFKA_USERNAME"
  let password ← nonEmpty lookup "KAFKA_PASSWORD"
  pure { username, password }

/-- **The settings of an environment**, or the first variable that is missing or no number. -/
def ofLookup (lookup : Lookup) : Except ConfigFault Settings := do
  let brokers ← required lookup "KAFKA_BOOTSTRAP_SERVERS"
  let autoCommitMs ← number lookup "KAFKA_AUTO_COMMIT_INTERVAL_MS" Decimal.limit32 5000
  let endpoint ← required lookup "INVENTORY_ENDPOINT"
  let timeoutSecs ← number lookup "INVENTORY_TIMEOUT_SECS" Decimal.limit64 30
  let retrySecs ← number lookup "RETRY_DURATION_SECS" Decimal.limit64 5
  let pollMs ← number lookup "POLL_TIMEOUT_MS" Decimal.limit64 100
  pure
    { kafka :=
        { brokers
          groupId := (nonEmpty lookup "KAFKA_GROUP_ID").getD "asset-indexer"
          credentials := credentials lookup
          saslMechanism := (nonEmpty lookup "KAFKA_SASL_MECHANISM").getD "SCRAM-SHA-256"
          sslCaPem := nonEmpty lookup "KAFKA_SSL_CA_PEM"
          autoCommitMs }
      inventory :=
        { endpoint
          isInsecure := nonEmpty lookup "INVENTORY_INSECURE_SKIP_VERIFY" == some "1"
          timeoutSecs }
      accountKey := (nonEmpty lookup "AWS_ACCOUNT_ANNOTATION_KEY").getD "discovery/aws/account"
      retrySecs
      pollMs }

end Settings

namespace KafkaSettings

/-- What is set when there are credentials: an encrypted connection that asks for them. -/
def securityConfig (k : KafkaSettings) : List (String × String) :=
  match k.credentials with
  | none => []
  | some c =>
    [("security.protocol", "SASL_SSL"), ("sasl.mechanisms", k.saslMechanism),
      ("sasl.username", c.username), ("sasl.password", c.password)] ++
    (k.sslCaPem.map (("ssl.ca.pem", ·))).toList

/-- **The configuration of the topic's reader**: offsets are stored by hand and committed in the
background, and a group without a committed offset starts with the first message. -/
def clientConfig (k : KafkaSettings) : List (String × String) :=
  [("bootstrap.servers", k.brokers), ("group.id", k.groupId), ("enable.auto.commit", "true"),
    ("enable.auto.offset.store", "false"),
    ("auto.commit.interval.ms", Decimal.text k.autoCommitMs), ("auto.offset.reset", "earliest")] ++
  k.securityConfig

end KafkaSettings

end AssetGraph

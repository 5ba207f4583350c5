import AssetGraph.Error
/-!
# Cloud accounts

An annotation may name the AWS account that contains an asset, by its twelve digits or by the name of
its root user.  Both forms give the same `Account`, whose `arn` names the one asset that stands for it.
-/
namespace AssetGraph

/-- **An account**: twelve ASCII digits. -/
structure Account where
  digits : List Char
  length_digits : digits.length = 12
  all_digits : digits.all Char.isDigit = true
deriving DecidableEq

namespace Account

/-- The type of the assets that stand for accounts. -/
def assetType : String := "AWSAccount"

def arnHead : List Char := "arn:aws:iam::".toList

def arnTail : List Char := ":root".toList

/-- The account with the given digits, if they are as they should be. -/
def ofDigits? (ds : List Char) : Option Account :=
  if h : ds.length = 12 ∧ ds.all Char.isDigit = true then some ⟨ds, h.1, h.2⟩ else none

/-- **The name of the account's root user.** -/
def arn (a : Account) : List Char := arnHead ++ (a.digits ++ arnTail)

/-- The digits that a root user's name would have. -/
def arnDigits (cs : List Char) : List Char := (cs.drop arnHead.length).take 12

/-- The account whose root user has the given name. -/
def ofArn? (cs : List Char) : Option Account :=
  (ofDigits? (arnDigits cs)).filter (·.arn == cs)

/-- **The account that a text names**, by the root user or by the digits alone. -/
def parse? (cs : List Char) : Option Account := ofArn? cs <|> ofDigits? cs

/-- The one form of the texts that name an account. -/
def normalize? (s : String) : Option String :=
  (parse? s.toList).map fun a => String.ofList a.arn

/-- **The one form of a text that names an account**; any other text is refused. -/
def normalize (s : String) : Except IngestError String :=
  match normalize? s with
  | some arn => .ok arn
  | none => .error (.invalidAccount s)

theorem ofDigits?_eq_some_iff {ds : List Char} {a : Account} :
    ofDigits? ds = some a ↔ a.digits = ds := by
  simp only [ofDigits?, Option.dite_none_right_eq_some, Option.some.injEq]
  constructor
  · rintro ⟨_, rfl⟩
    rfl
  · rintro rfl
    exact ⟨⟨a.length_digits, a.all_digits⟩, rfl⟩

theorem arnDigits_arn (a : Account) : arnDigits a.arn = a.digits := by
  simp [arnDigits, arn, a.length_digits]

theorem ofArn?_eq_some_iff {cs : List Char} {a : Account} : ofArn? cs = some a ↔ cs = a.arn := by
  simp only [ofArn?, Option.filter_eq_some_iff, beq_iff_eq]
  constructor
  · exact fun h => h.2.symm
  · rintro rfl
    exact ⟨by rw [ofDigits?_eq_some_iff, arnDigits_arn], rfl⟩

end Account

end AssetGraph

import AssetGraph.Proofs.Reconcile.Again
/-!
# Accounts and their assets

A text names an account as its twelve digits or as the name of its root user, and no text names two
(`IsWrittenAs.eq`).  Which one it names is read off it (`normalize?_eq_some_iff`), and both texts of an
account have the same one form, so an account has one asset, and no two accounts share theirs
(`normalize_is_canonical`).
-/
namespace AssetGraph

namespace Account

/-- The name of the root user, as a text. -/
def rootName (a : Account) : String := "arn:aws:iam::" ++ String.ofList a.digits ++ ":root"

/-- **How an account is written**: as its digits, or as the name of its root user. -/
def IsWrittenAs (a : Account) (x : String) : Prop := x = String.ofList a.digits ∨ x = a.rootName

variable {a b : Account} {cs : List Char} {x y : String}

theorem toList_framed (head tail : String) (cs : List Char) :
    (head ++ String.ofList cs ++ tail).toList = head.toList ++ (cs ++ tail.toList) := by
  rw [String.toList_append, String.toList_append, String.toList_ofList, List.append_assoc]

theorem toList_rootName (a : Account) : a.rootName.toList = a.arn := toList_framed _ _ _

theorem rootName_eq (a : Account) : a.rootName = String.ofList a.arn := by
  rw [← toList_rootName, String.ofList_toList]

/-- Accounts are told apart by their digits. -/
theorem digits_inj (h : a.digits = b.digits) : a = b :=
  Option.some.inj ((ofDigits?_eq_some_iff.2 h).symm.trans (ofDigits?_eq_some_iff.2 rfl))

/-- **No two accounts have the same root user.** -/
theorem rootName_inj (h : a.rootName = b.rootName) : a = b := by
  have harn : a.arn = b.arn := by rw [← toList_rootName, h, toList_rootName]
  exact Option.some.inj ((ofArn?_eq_some_iff.2 rfl).symm.trans (ofArn?_eq_some_iff.2 harn))

/-- The name of a root user is no digits: it begins otherwise. -/
theorem arn_ne_digits (a b : Account) : a.arn ≠ b.digits := by
  intro h
  have hall : arnHead.all Char.isDigit = false := by decide +kernel
  have hdigits := b.all_digits
  rw [← h, arn, List.all_append, hall, Bool.false_and] at hdigits
  cases hdigits

theorem parse?_eq_some_iff : parse? cs = some a ↔ cs = a.digits ∨ cs = a.arn := by
  rw [parse?, Option.orElse_eq_orElse, Option.orElse_eq_or, Option.or_eq_some_iff, ofArn?_eq_some_iff,
    ofDigits?_eq_some_iff]
  constructor
  · rintro (h | ⟨-, h⟩)
    · exact .inr h
    · exact .inl h.symm
  · rintro (rfl | rfl)
    · refine .inr ⟨Option.eq_none_iff_forall_ne_some.2 fun b hb => ?_, rfl⟩
      exact arn_ne_digits b a (ofArn?_eq_some_iff.1 hb).symm
    · exact .inl rfl

theorem isWrittenAs_iff : a.IsWrittenAs x ↔ parse? x.toList = some a := by
  have htext {cs : List Char} : x = String.ofList cs ↔ x.toList = cs :=
    ⟨fun h => by rw [h, String.toList_ofList], fun h => by rw [← h, String.ofList_toList]⟩
  rw [IsWrittenAs, rootName_eq, parse?_eq_some_iff, htext, htext]

/-- **No text names two accounts.** -/
theorem IsWrittenAs.eq (h : a.IsWrittenAs x) (h' : b.IsWrittenAs x) : a = b :=
  Option.some.inj ((isWrittenAs_iff.1 h).symm.trans (isWrittenAs_iff.1 h'))

theorem isWrittenAs_rootName (a : Account) : a.IsWrittenAs a.rootName := .inr rfl

/-- **The one form of a text** is the root user's name of the account that it names. -/
theorem normalize?_eq_some_iff : normalize? x = some y ↔ ∃ a : Account, a.IsWrittenAs x ∧ y = a.rootName := by
  simp only [normalize?, Option.map_eq_some_iff, isWrittenAs_iff, rootName_eq, eq_comm (a := y)]

theorem IsWrittenAs.normalize? (h : a.IsWrittenAs x) : normalize? x = some a.rootName :=
  normalize?_eq_some_iff.2 ⟨a, h, rfl⟩

theorem normalize?_eq_none_iff : normalize? x = none ↔ ∀ a : Account, ¬ a.IsWrittenAs x := by
  simp only [Option.eq_none_iff_forall_ne_some, Ne, normalize?_eq_some_iff, not_exists, not_and]
  exact ⟨fun h a ha => h a.rootName a ha rfl, fun h _ a ha => absurd ha (h a)⟩

theorem normalize_eq_ok_iff : normalize x = .ok y ↔ normalize? x = some y := by
  rw [normalize]
  cases normalize? x <;> simp

theorem normalize_eq_error_iff {e : IngestError} :
    normalize x = .error e ↔ normalize? x = none ∧ e = .invalidAccount x := by
  rw [normalize]
  cases normalize? x <;> simp [eq_comm]

/-- The key of the asset that stands for an account. -/
def asset (a : Account) : AssetKey := key a.rootName

theorem asset_inj (h : a.asset = b.asset) : a = b := rootName_inj (congrArg AssetKey.identifier h)

end Account

namespace Graph

variable {g : Graph} {a b : Account}

/-- **No two accounts share an asset**, and none has two. -/
theorem WellFormed.account_id_eq_iff (h : g.WellFormed) {c c' : Asset} (hc : c ∈ g.assets)
    (hc' : c' ∈ g.assets) (ha : c.key = a.asset) (hb : c'.key = b.asset) :
    c.id = c'.id ↔ a.digits = b.digits := by
  rw [h.id_eq_iff hc' hc, ha, hb]
  refine ⟨fun hkey => by rw [Account.asset_inj hkey], fun hdigits => ?_⟩
  rw [Account.digits_inj hdigits]

/-- **Behind an upsert that ends well, every annotated account contains the asset.** -/
theorem Sound.accounts_contain (h : g.Sound) (accountKey : String) (p : Payload) (now : Instant)
    (hok : (Event.upsert p).verdict accountKey = .ok ()) {x : String} (hx : x ∈ p.valuesOf accountKey) :
    let left := (Event.upsert p).effect accountKey now g
    ∃ a : Account, a.IsWrittenAs x ∧ ∃ c ∈ left.assets, c.key = a.asset ∧
      ∃ e ∈ left.parents, left.assetId? p.assetKey = some e.childId ∧ e.parentId = c.id := by
  intro left
  have hnamed : (Account.named (p.valuesOf accountKey)).2 = none := by
    cases hsecond : (Account.named (p.valuesOf accountKey)).2 with
    | none => rfl
    | some value =>
      rw [Event.verdict, hsecond] at hok
      cases hok
  obtain ⟨y, hy⟩ : ∃ y, Account.normalize? x = some y := by
    rw [Account.named_snd, List.find?_eq_none] at hnamed
    simpa [Option.isSome_iff_exists, ← Option.isSome_iff_ne_none] using hnamed x hx
  obtain ⟨a, ha, rfl⟩ := Account.normalize?_eq_some_iff.1 hy
  have hseen := (Event.seen_effect_upsert h accountKey p now).2
  rw [Account.named_fst hnamed] at hseen
  obtain ⟨-, e, he, hchild, hparent, -⟩ := hseen a.rootName (List.mem_filterMap.2 ⟨x, hx, hy⟩)
  obtain ⟨c, hc, hid⟩ := Option.map_eq_some_iff.1 hparent
  obtain ⟨hmem, hkey⟩ := (Event.sound_effect h accountKey now (.upsert p)).asset?_eq_some_iff.1 hc
  exact ⟨a, ha, c, hmem, hkey, e, he, hchild, hid.symm⟩

end Graph

/-- **Accounts have one form.**  A text is brought into it exactly if it is the twelve digits of an account or
the name of its root user, and then that name is the form; any other text is refused, and the error carries
it.  So a form is its own form, and two texts have the same one exactly if they carry the same digits.  In
every graph that a history of loads reaches, whatever has failed on the way, an account therefore has one
asset and shares it with no other; and behind an upsert that ends well the asset of each account that it
names, in whichever form, contains the asset that it is about. -/
theorem Account.normalize_is_canonical :
    (∀ x y, normalize x = .ok y ↔ ∃ a : Account, a.IsWrittenAs x ∧ y = a.rootName) ∧
    (∀ x e, normalize x = .error e ↔ (∀ a : Account, ¬ a.IsWrittenAs x) ∧ e = .invalidAccount x) ∧
    (∀ x y, normalize x = .ok y → normalize y = .ok y) ∧
    (∀ (a b : Account) (x x' : String), a.IsWrittenAs x → b.IsWrittenAs x' →
      (normalize x = normalize x' ↔ a.digits = b.digits)) ∧
    ∀ (accountKey : String) (xs : List (Instant × Event)) (g : Graph), g.Reached accountKey xs →
      (∀ (a b : Account), ∀ c ∈ g.assets, ∀ c' ∈ g.assets, c.key = a.asset → c'.key = b.asset →
        (c.id = c'.id ↔ a.digits = b.digits)) ∧
      ∀ (p : Payload) (now t : Instant),
        let left := ((Event.upsert p).plan accountKey now).run (Graph.server t) g
        left.1 = .ok () → ∀ x ∈ p.valuesOf accountKey, ∃ a : Account, a.IsWrittenAs x ∧
          ∃ c ∈ left.2.assets, c.key = a.asset ∧ ∃ e ∈ left.2.parents,
            left.2.assetId? p.assetKey = some e.childId ∧ e.parentId = c.id := by
  refine ⟨fun x y => normalize_eq_ok_iff.trans normalize?_eq_some_iff, fun x e => ?_, fun x y h => ?_,
    fun a b x x' ha hb => ?_, fun accountKey xs g h => ⟨fun a b c hc c' hc' => ?_, fun p now t => ?_⟩⟩
  · rw [normalize_eq_error_iff, normalize?_eq_none_iff]
  · obtain ⟨a, -, rfl⟩ := normalize?_eq_some_iff.1 (normalize_eq_ok_iff.1 h)
    exact normalize_eq_ok_iff.2 a.isWrittenAs_rootName.normalize?
  · rw [normalize_eq_ok_iff.2 ha.normalize?, normalize_eq_ok_iff.2 hb.normalize?, Except.ok.injEq]
    exact ⟨fun h => by rw [rootName_inj h], fun h => by rw [digits_inj h]⟩
  · exact h.sound.account_id_eq_iff hc hc'
  · rw [Event.run_plan h.sound]
    exact fun hok x => h.sound.accounts_contain accountKey p now hok

/-- Two hosts in the same account, which they write in two ways, and the second in another account, too. -/
theorem Account.normalize_is_canonical_of_two_hosts :
    let a : Account := ⟨"123456789012".toList, by decide +kernel, by decide +kernel⟩
    let b : Account := ⟨"210987654321".toList, by decide +kernel, by decide +kernel⟩
    let host (identifier : String) (values : List String) : Payload :=
      { team := { id := "t", name := "Team" }, assetType := "Hostname", identifier
        annotations := values.map fun value => { key := "account", value } }
    let p := host "h" ["123456789012"]
    let q := host "i" ["arn:aws:iam::123456789012:root", "210987654321"]
    let now : Instant := { second := 1 }
    let g := (Scene.load "account" (.upsert p) { now }).2.graph
    let left := ((Event.upsert q).plan "account" now).run (Graph.server now) g
    a.IsWrittenAs "123456789012" ∧ a.IsWrittenAs "arn:aws:iam::123456789012:root" ∧
      b.IsWrittenAs "210987654321" ∧
      normalize "123456789012" = normalize "arn:aws:iam::123456789012:root" ∧
      normalize "123456789012" ≠ normalize "210987654321" ∧
      Graph.Reached "account" [(now, .upsert p)] g ∧ left.1 = .ok () ∧
      (∃ c : Account, c.IsWrittenAs "210987654321" ∧ ∃ x ∈ left.2.assets, x.key = c.asset ∧
        ∃ e ∈ left.2.parents, left.2.assetId? q.assetKey = some e.childId ∧ e.parentId = x.id) ∧
      left.2.parents.map (·.pair) = [("asset-1", "asset-4"), ("asset-6", "asset-4"), ("asset-6", "asset-9")] := by
  intro a b host p q now g left
  have ha : a.IsWrittenAs "123456789012" := .inl (by decide +kernel)
  have ha' : a.IsWrittenAs "arn:aws:iam::123456789012:root" := .inr (by decide +kernel)
  have hb : b.IsWrittenAs "210987654321" := .inl (by decide +kernel)
  have h : Graph.Reached "account" [(now, .upsert p)] g :=
    Graph.Reached.scene (s := { now }) .empty (.upsert p)
  obtain ⟨-, -, -, hsame, hgraph⟩ := normalize_is_canonical
  have hok : left.1 = .ok () := by decide +kernel
  have hx : "210987654321" ∈ q.valuesOf "account" := by decide +kernel
  refine ⟨ha, ha', hb, (hsame a a _ _ ha ha').2 rfl, fun he => ?_, h, hok, ?_, by decide +kernel⟩
  · exact absurd ((hsame a b _ _ ha hb).1 he) (by decide +kernel)
  · unfold left
    exact (hgraph "account" _ g h).2 q now now hok "210987654321" hx

end AssetGraph

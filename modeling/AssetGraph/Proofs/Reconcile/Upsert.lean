import AssetGraph.Proofs.Reconcile.Statement
/-!
# What an upsert does

A deed that raises something brings about one entry under one key: the entry that is there is changed, and
where there is none a new one comes behind the others (`Graph.Brings`).  That adds up over deeds
(`Graph.Brings.trans`), also where two of them are about one key, since being changed twice is being changed
once.  So an upsert brings about its asset, its team, the accounts up to a text that names none, and the edges
between them (`Graph.Upserted`), before any graph in which the next entities can be created, and leaves
everything else as it is (`Graph.upsert_does_exactly`).
-/
namespace AssetGraph

namespace Graph

/-! ## Entries under keys -/

/-- **Entries are brought about under keys.**  Under each of the keys there is one entry: the old one changed,
or a new one where there was none.  Under other keys everything is as it was, and old entries keep their
places in front of new ones. -/
structure Brings {α κ : Type} [DecidableEq κ] (key : α → κ) (ks : List κ) (f : α → α) (isNew : α → Prop)
    (xs ys : List α) : Prop where
  one : ∀ k ∈ ks, ∃ y, ys.filter (key · = k) = [y] ∧
    ((∃ x ∈ xs, key x = k ∧ y = f x) ∨ (k ∉ xs.map key ∧ isNew y))
  rest : ys.filter (key · ∉ ks) = xs.filter (key · ∉ ks)
  places : xs.map key <+: ys.map key

namespace Brings

variable {α κ : Type} [DecidableEq κ] {key : α → κ} {f : α → α} {isNew : α → Prop} {xs ys zs : List α}
  {k : κ} {ks ks' : List κ}

theorem refl (xs : List α) : Brings key [] f isNew xs xs where
  one := fun _ h => absurd h List.not_mem_nil
  rest := rfl
  places := List.prefix_rfl

theorem of_change (hn : (xs.map key).Nodup) (hf : ∀ x, key (f x) = key x) {x : α}
    (hx : xs.find? (key · = k) = some x) : Brings key [k] f isNew xs (change (key · = k) f xs) := by
  have hmap : (change (key · = k) f xs).map key = xs.map key := map_change hf xs
  refine ⟨fun k' hk' => ?_, ?_, hmap ▸ List.prefix_rfl⟩
  · obtain rfl : k' = k := List.mem_singleton.1 hk'
    obtain ⟨hm, hk⟩ := (find?_key_eq_some_iff hn).1 hx
    have hkey (x : α) : decide (key (f x) = k') = decide (key x = k') := by rw [hf]
    refine ⟨f x, ?_, .inl ⟨x, hm, hk, rfl⟩⟩
    rw [filter_key_eq (hmap ▸ hn), find?_change hkey, hx, Option.map_some, if_pos hk, Option.toList_some]
  · have hkey (x : α) : decide (key (f x) ∉ [k]) = decide (key x ∉ [k]) := by rw [hf]
    rw [filter_change hkey, change_eq_self]
    intro x hx hk
    have hne : key x ∉ [k] := by simpa using (List.mem_filter.1 hx).2
    exact absurd (List.mem_singleton.2 hk) hne

theorem of_concat (hn : xs.find? (key · = k) = none) {y : α} (hy : key y = k) (hnew : isNew y) :
    Brings key [k] f isNew xs (xs ++ [y]) := by
  have hnone : k ∉ xs.map key := find?_key_eq_none_iff.1 hn
  refine ⟨fun k' hk' => ?_, ?_, prefix_map_concat key xs y⟩
  · obtain rfl : k' = k := List.mem_singleton.1 hk'
    have hold : xs.filter (key · = k') = [] := by
      refine List.filter_eq_nil_iff.2 fun x hx hk => hnone ?_
      exact List.mem_map.2 ⟨x, hx, of_decide_eq_true hk⟩
    refine ⟨y, ?_, .inr ⟨hnone, hnew⟩⟩
    rw [List.filter_append, hold, List.filter_cons, if_pos (decide_eq_true hy)]
    rfl
  · have hmem : key y ∈ [k] := List.mem_singleton.2 hy
    rw [List.filter_append, List.filter_cons_of_neg (by simpa using hmem)]
    exact List.append_nil _

/-- **What is brought about adds up**: an entry that is changed twice is changed once, and a new one stays
new. -/
theorem trans (hf : ∀ x, f (f x) = f x) (hnew : ∀ x, isNew x → isNew (f x))
    (h : Brings key ks f isNew xs ys) (h' : Brings key ks' f isNew ys zs) :
    Brings key (ks ++ ks') f isNew xs zs := by
  have hsplit (xs : List α) : xs.filter (key · ∉ ks ++ ks') = (xs.filter (key · ∉ ks')).filter (key · ∉ ks) := by
    rw [List.filter_filter]
    refine List.filter_congr fun x _ => ?_
    simp
  have hswap (xs : List α) :
      (xs.filter (key · ∉ ks)).filter (key · ∉ ks') = (xs.filter (key · ∉ ks')).filter (key · ∉ ks) := by
    rw [List.filter_filter, List.filter_filter]
    exact List.filter_congr fun x _ => Bool.and_comm _ _
  refine ⟨fun k hk => ?_, ?_, h.places.trans h'.places⟩
  · by_cases hk' : k ∈ ks'
    · obtain ⟨z, hz, ⟨y, hy, hyk, rfl⟩ | ⟨hno, hznew⟩⟩ := h'.one k hk'
      · refine ⟨f y, hz, ?_⟩
        by_cases hks : k ∈ ks
        · obtain ⟨y', hy', hcases⟩ := h.one k hks
          have hmem : y ∈ ys.filter (key · = k) := List.mem_filter.2 ⟨hy, decide_eq_true hyk⟩
          rw [hy', List.mem_singleton] at hmem
          subst hmem
          rcases hcases with ⟨x, hx, hxk, rfl⟩ | ⟨hno, hynew⟩
          · exact .inl ⟨x, hx, hxk, hf x⟩
          · exact .inr ⟨hno, hnew y hynew⟩
        · -- the first has not touched the key
          have hmem : y ∈ ys.filter (key · ∉ ks) := List.mem_filter.2 ⟨hy, decide_eq_true (hyk ▸ hks)⟩
          rw [h.rest] at hmem
          exact .inl ⟨y, (List.mem_filter.1 hmem).1, hyk, rfl⟩
      · exact ⟨z, hz, .inr ⟨fun hm => hno (h.places.subset hm), hznew⟩⟩
    · obtain ⟨y, hy, hcases⟩ := h.one k ((List.mem_append.1 hk).resolve_right hk')
      have hat (xs : List α) : xs.filter (key · = k) = (xs.filter (key · ∉ ks')).filter (key · = k) := by
        rw [List.filter_filter]
        refine List.filter_congr fun x _ => ?_
        by_cases hx : key x = k
        · simp [hx, hk']
        · simp [hx]
      exact ⟨y, by rw [hat zs, h'.rest, ← hat ys, hy], hcases⟩
  · rw [hsplit zs, h'.rest, ← hswap ys, h.rest, hswap xs, ← hsplit xs]

end Brings

/-! ## What deeds bring about -/

/-- **What an upsert leaves of a graph.**  Under each of the keys there is one asset, seen now and unexpired,
for the first time if it is new; under each of the identifiers one team, with the name; for each of the pairs
of an asset and a team one active ownership, which has its start if it is old and starts now if it is new; and
for each of the pairs of a child and a parent one containment, seen now and unexpired, for the first time if it
is new.  Everything else is as it was. -/
structure Upserted (now : Instant) (name : String) (keys : List AssetKey) (identifiers : List String)
    (pairs edges : List (String × String)) (g g' : Graph) : Prop where
  assets : Brings (·.key) keys (fun a => { a with lastSeen := now, expiration := Instant.unexpired })
    (fun a => a.firstSeen = now ∧ a.lastSeen = now ∧ a.expiration = Instant.unexpired) g.assets g'.assets
  teams : Brings (·.identifier) identifiers (fun t => { t with name }) (·.name = name) g.teams g'.teams
  owns : Brings (·.pair) pairs (fun o => { o with endTime := none })
    (fun o => o.startTime = now ∧ o.endTime = none) g.owns g'.owns
  parents : Brings (·.pair) edges (fun e => { e with lastSeen := now, expiration := Instant.unexpired })
    (fun e => e.firstSeen = now ∧ e.lastSeen = now ∧ e.expiration = Instant.unexpired) g.parents g'.parents

section Upserted

variable {g g' g'' : Graph} {now : Instant} {name : String}

theorem Upserted.refl (now : Instant) (name : String) (g : Graph) : Upserted now name [] [] [] [] g g :=
  ⟨.refl _, .refl _, .refl _, .refl _⟩

theorem Upserted.trans {keys keys' : List AssetKey} {identifiers identifiers' : List String}
    {pairs pairs' edges edges' : List (String × String)} (h : Upserted now name keys identifiers pairs edges g g')
    (h' : Upserted now name keys' identifiers' pairs' edges' g' g'') :
    Upserted now name (keys ++ keys') (identifiers ++ identifiers') (pairs ++ pairs') (edges ++ edges') g g'' where
  assets := .trans (fun _ => rfl) (fun _ hx => ⟨hx.1, rfl, rfl⟩) h.assets h'.assets
  teams := .trans (fun _ => rfl) (fun _ _ => rfl) h.teams h'.teams
  owns := .trans (fun _ => rfl) (fun _ hx => ⟨hx.1, rfl⟩) h.owns h'.owns
  parents := .trans (fun _ => rfl) (fun _ hx => ⟨hx.1, rfl, rfl⟩) h.parents h'.parents

theorem upserted_asset (h : g.Unambiguous) (now : Instant) (name : String) (k : AssetKey) :
    Upserted now name [k] [] [] [] g ((Deed.asset k).perform now g) := by
  rw [Deed.perform, withAsset]
  split
  · rename_i hk
    exact { Upserted.refl now name g with assets := .of_change h.keys (fun _ => rfl) hk }
  · rename_i hk
    exact { Upserted.refl now name g with assets := .of_concat hk rfl ⟨rfl, rfl, rfl⟩ }

theorem upserted_team (h : g.Unambiguous) (now : Instant) (i name : String) :
    Upserted now name [] [i] [] [] g ((Deed.team i name).perform now g) := by
  rw [Deed.perform, withTeam]
  split
  · rename_i hi
    exact { Upserted.refl now name g with teams := .of_change h.identifiers (fun _ => rfl) hi }
  · rename_i hi
    exact { Upserted.refl now name g with teams := .of_concat hi rfl rfl }

theorem upserted_owner (h : g.Unambiguous) (now : Instant) (name : String) {k : AssetKey} {i : String}
    {assetId teamId : String} (hk : g.assetId? k = some assetId) (hi : g.teamId? i = some teamId) :
    Upserted now name [] [] [(assetId, teamId)] [] g ((Deed.owner k i).perform now g) := by
  obtain ⟨a, ha, rfl⟩ := Option.map_eq_some_iff.1 hk
  obtain ⟨t, ht, rfl⟩ := Option.map_eq_some_iff.1 hi
  simp only [Deed.perform, ha, ht, withOwns]
  split
  · rename_i ho
    exact { Upserted.refl now name g with owns := .of_change h.pairs (fun _ => rfl) ho }
  · rename_i ho
    exact { Upserted.refl now name g with owns := .of_concat ho rfl ⟨rfl, rfl⟩ }

theorem upserted_parent (h : g.Unambiguous) (now : Instant) (name : String) {c p : AssetKey}
    {childId parentId : String} (hc : g.assetId? c = some childId) (hp : g.assetId? p = some parentId) :
    Upserted now name [] [] [] [(childId, parentId)] g ((Deed.parent c p).perform now g) := by
  obtain ⟨a, ha, rfl⟩ := Option.map_eq_some_iff.1 hc
  obtain ⟨b, hb, rfl⟩ := Option.map_eq_some_iff.1 hp
  simp only [Deed.perform, ha, hb, withParentOf]
  split
  · rename_i he
    exact { Upserted.refl now name g with parents := .of_change h.edges (fun _ => rfl) he }
  · rename_i he
    exact { Upserted.refl now name g with parents := .of_concat he rfl ⟨rfl, rfl, rfl⟩ }

/-! ## Ids on the way -/

theorem exists_assetId?_perform (now : Instant) (k : AssetKey) (g : Graph) :
    ∃ id, ((Deed.asset k).perform now g).assetId? k = some id := by
  obtain ⟨hm, -⟩ : (Deed.asset k).IsDone now ((Deed.asset k).perform now g) :=
    Deed.isDone_perform (d := .asset k) trivial
  obtain ⟨a, ha⟩ := Option.ne_none_iff_exists'.1 fun hnone => find?_key_eq_none_iff.1 hnone hm
  exact ⟨a.id, Option.map_eq_some_iff.2 ⟨a, ha, rfl⟩⟩

theorem exists_teamId?_perform (now : Instant) (i name : String) (g : Graph) :
    ∃ id, ((Deed.team i name).perform now g).teamId? i = some id := by
  obtain ⟨hm, -⟩ : (Deed.team i name).IsDone now ((Deed.team i name).perform now g) :=
    Deed.isDone_perform (d := .team i name) trivial
  obtain ⟨t, ht⟩ := Option.ne_none_iff_exists'.1 fun hnone => find?_key_eq_none_iff.1 hnone hm
  exact ⟨t.id, Option.map_eq_some_iff.2 ⟨t, ht, rfl⟩⟩

/-! ## Upserts -/

theorem upserted_account (h : g.Growable) {k : AssetKey} {id : String} (hk : g.assetId? k = some id)
    (now : Instant) (name : String) (parent : AssetKey) :
    ∃ parentId, (Deed.performAll now [.asset parent, .parent k parent] g).assetId? parent = some parentId ∧
      Upserted now name [parent] [] [] [(id, parentId)] g
        (Deed.performAll now [.asset parent, .parent k parent] g) := by
  have h₁ : ((Deed.asset parent).perform now g).Growable := Deed.growable_perform h _
  have hk₁ := (Deed.extends_perform (.asset parent) now g).assetId? hk
  obtain ⟨parentId, hp⟩ := exists_assetId?_perform now parent g
  exact ⟨parentId, (Deed.extends_perform (.parent k parent) now _).assetId? hp,
    (upserted_asset h.toUnambiguous now name parent).trans (upserted_parent h₁.toUnambiguous now name hk₁ hp)⟩

/-- **The accounts' part of an upsert**: the accounts, and an edge to each of them. -/
theorem upserted_containing (h : g.Growable) {k : AssetKey} {id : String} (hk : g.assetId? k = some id)
    (now : Instant) (name : String) (arns : List String) :
    ∃ accountIds, List.Forall₂
      (fun arn accountId => (Deed.performAll now (Deed.containing k arns) g).assetId? (Account.key arn) =
        some accountId) arns accountIds ∧
      Upserted now name (arns.map Account.key) [] [] (accountIds.map fun accountId => (id, accountId)) g
        (Deed.performAll now (Deed.containing k arns) g) := by
  induction arns generalizing g with
  | nil => exact ⟨[], .nil, .refl now name g⟩
  | cons arn arns ih =>
    obtain ⟨accountId, harn, hone⟩ := upserted_account h hk now name (Account.key arn)
    have happend : Deed.performAll now (Deed.containing k (arn :: arns)) g =
        Deed.performAll now (Deed.containing k arns)
          (Deed.performAll now [.asset (Account.key arn), .parent k (Account.key arn)] g) := rfl
    rw [happend]
    obtain ⟨accountIds, hids, hrest⟩ :=
      ih (Deed.growable_performAll h _) ((Deed.extends_performAll _ now g).assetId? hk)
    exact ⟨accountId :: accountIds, .cons ((Deed.extends_performAll _ now _).assetId? harn) hids,
      hone.trans hrest⟩

/-- **The deeds of an upsert** bring about what it names. -/
theorem upserted_performAll (h : g.Growable) (now : Instant) (k : AssetKey) (i name : String)
    (arns : List String) :
    let g' := Deed.performAll now (.asset k :: .team i name :: .owner k i :: Deed.containing k arns) g
    ∃ assetId teamId accountIds, g'.assetId? k = some assetId ∧ g'.teamId? i = some teamId ∧
      List.Forall₂ (fun arn accountId => g'.assetId? (Account.key arn) = some accountId) arns accountIds ∧
      Upserted now name (k :: arns.map Account.key) [i] [(assetId, teamId)]
        (accountIds.map fun accountId => (assetId, accountId)) g g' := by
  intro g'
  have h₁ : ((Deed.asset k).perform now g).Growable := Deed.growable_perform h _
  have hasset := upserted_asset h.toUnambiguous now name k
  obtain ⟨assetId, hk₁⟩ := exists_assetId?_perform now k g
  have h₂ : ((Deed.team i name).perform now ((Deed.asset k).perform now g)).Growable := Deed.growable_perform h₁ _
  have hteam := upserted_team h₁.toUnambiguous now i name
  obtain ⟨teamId, hi₂⟩ := exists_teamId?_perform now i name ((Deed.asset k).perform now g)
  have hk₂ := (Deed.extends_perform (.team i name) now _).assetId? hk₁
  have h₃ : ((Deed.owner k i).perform now
      ((Deed.team i name).perform now ((Deed.asset k).perform now g))).Growable := Deed.growable_perform h₂ _
  have howner := upserted_owner h₂.toUnambiguous now name hk₂ hi₂
  have hk₃ := (Deed.extends_perform (.owner k i) now _).assetId? hk₂
  have hi₃ := (Deed.extends_perform (.owner k i) now _).teamId? hi₂
  obtain ⟨accountIds, hids, haccounts⟩ := upserted_containing h₃ hk₃ now name arns
  have hext := Deed.extends_performAll (Deed.containing k arns) now ((Deed.owner k i).perform now
    ((Deed.team i name).perform now ((Deed.asset k).perform now g)))
  exact ⟨assetId, teamId, accountIds, hext.assetId? hk₃, hext.teamId? hi₃, hids,
    ((hasset.trans hteam).trans howner).trans haccounts⟩

/-- **The exact effect of an upsert.**  Take any graph in which whatever names an entity names no other of its
kind, no edge dangles and the ids to come are free, and any time.  The accounts are those that the texts under
the accounts' key name, in their order, up to the first text that names none.  An upsert ends with that text,
and well if there is none.  Behind it the graph is as before but for one asset with the payload's key, seen now
and unexpired; one team with the payload's identifier and name; one active ownership of the one by the other,
with the start that it had; one asset for each of the accounts, seen now and unexpired; and one containment of
the asset in each, seen now and unexpired.  What was not there is there for the first time, now. -/
theorem upsert_does_exactly (h : g.Growable) (accountKey : String) (p : Payload) (now t : Instant) :
    let values := p.valuesOf accountKey
    let accounts :=
      (values.takeWhile fun value => (Account.normalize? value).isSome).filterMap Account.normalize?
    let ended := ((Event.upsert p).plan accountKey now).run (Graph.server t) g
    (ended.1 = match values.find? fun value => (Account.normalize? value).isNone with
      | some value => .error (.invalidAccount value)
      | none => .ok ()) ∧
    ended.2.Growable ∧
    ∃ assetId teamId accountIds, ended.2.assetId? p.assetKey = some assetId ∧
      ended.2.teamId? p.team.id = some teamId ∧
      List.Forall₂ (fun arn accountId => ended.2.assetId? (Account.key arn) = some accountId) accounts accountIds ∧
      Upserted now p.team.name (p.assetKey :: accounts.map Account.key) [p.team.id] [(assetId, teamId)]
        (accountIds.map fun accountId => (assetId, accountId)) g ended.2 := by
  intro values accounts ended
  have hended : ended = ((Event.upsert p).verdict accountKey, (Event.upsert p).effect accountKey now g) :=
    (Load.upsert_does h accountKey p now).run_server t
  have hnamed : Account.named values =
      (accounts, values.find? fun value => (Account.normalize? value).isNone) := Account.named_eq values
  have hverdict : (Event.upsert p).verdict accountKey = match (Account.named values).2 with
      | some value => .error (.invalidAccount value)
      | none => .ok () := rfl
  rw [hnamed] at hverdict
  rw [hended]
  refine ⟨hverdict, Deed.growable_performAll h _, ?_⟩
  rw [Event.effect, Event.deeds, hnamed]
  exact upserted_performAll h now p.assetKey p.team.id p.team.name accounts

/-- A host comes back that its team has given up.  Its payload has a new name for the team and names the account
that has contained it, twice and in both forms, another account, and then a text that is none in front of a
third. -/
theorem upsert_does_exactly_to_a_host_that_comes_back :
    let t (second : Int) : Instant := { second }
    let k (identifier : String) : AssetKey := { type := "Hostname", identifier }
    let p (identifier team name : String) (values : List String) : Payload :=
      { assetType := "Hostname", identifier, team := { id := team, name }
        annotations := values.map fun value => { key := "account", value } }
    let arn := "arn:aws:iam::123456789012:root"
    let other := "arn:aws:iam::210987654321:root"
    let load (second : Int) (e : Event) (g : Graph) := e.effect "account" (t second) g
    let g := load 2 (.retire { asset := k "h", teamId := "t", assetId := "h" })
      (load 1 (.upsert (p "i" "u" "Other" [arn])) (load 1 (.upsert (p "h" "t" "Old" [arn])) empty))
    let q := p "h" "t" "New" ["123456789012", arn, "210987654321", "x", "111111111111"]
    let ended := ((Event.upsert q).plan "account" (t 3)).run (Graph.server (t 4)) g
    g.Growable ∧ ended.1 = .error (.invalidAccount "x") ∧
      Upserted (t 3) "New" [k "h", Account.key arn, Account.key arn, Account.key other] ["t"]
        [("asset-1", "team-2")] [("asset-1", "asset-4"), ("asset-1", "asset-4"), ("asset-1", "asset-10")]
        g ended.2 ∧
      ended.2.assets.filter (·.key = k "h") =
        [{ id := "asset-1", key := k "h", firstSeen := t 1, lastSeen := t 3, expiration := Instant.unexpired }] := by
  intro t k p arn other load g q ended
  have h : g.Growable :=
    (Event.sound_effect (Event.sound_effect (Event.sound_effect sound_empty _ _ _) _ _ _) _ _ _).growable
  obtain ⟨hend, -, assetId, teamId, accountIds, ha, hu, hids, hupserted⟩ :=
    upsert_does_exactly h "account" q (t 3) (t 4)
  have haccounts : ((q.valuesOf "account").takeWhile fun value => (Account.normalize? value).isSome).filterMap
      Account.normalize? = [arn, arn, other] := by decide +kernel
  rw [haccounts] at hids hupserted
  have ha' : ended.2.assetId? q.assetKey = some "asset-1" := by decide +kernel
  have hu' : ended.2.teamId? q.team.id = some "team-2" := by decide +kernel
  have harn : ended.2.assetId? (Account.key arn) = some "asset-4" := by decide +kernel
  have hother : ended.2.assetId? (Account.key other) = some "asset-10" := by decide +kernel
  obtain rfl := Option.some.inj (ha'.symm.trans ha)
  obtain rfl := Option.some.inj (hu'.symm.trans hu)
  rcases hids with _ | ⟨hfirst, _ | ⟨hsecond, _ | ⟨hthird, _ | _⟩⟩⟩
  obtain rfl := Option.some.inj (harn.symm.trans hfirst)
  obtain rfl := Option.some.inj (harn.symm.trans hsecond)
  obtain rfl := Option.some.inj (hother.symm.trans hthird)
  exact ⟨h, hend.trans (by decide +kernel), hupserted, by decide +kernel⟩

end Upserted

end Graph

end AssetGraph

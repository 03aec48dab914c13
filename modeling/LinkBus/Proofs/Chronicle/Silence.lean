import LinkBus.Proofs.Chronicle.Basic
import LinkBus.Proofs.Network.Names
import LinkBus.Proofs.Plan.Differences

/-!
# Batches without effect

A batch of messages may lead through any inventories and end with the tables that it began with. It
still reports what it touched, so the touched interfaces are renumbered and everything is compared
for a plan. But interfaces that are settled already keep their numbers, so the whole network is as
before, and whoever told of it last has nothing to tell.
-/

namespace LinkBus

/-- Two inventories have the same links, the same addresses and the same routes. -/
structure Inventory.SameTables (a b : Inventory) : Prop where
  /-- The links are the same. -/
  links : a.links = b.links
  /-- The addresses are the same. -/
  addresses : a.addresses = b.addresses
  /-- The routes are the same. -/
  routes : a.routes = b.routes

/-- The tables and the filter make up an inventory in form. -/
theorem Inventory.WellFormed.eq_of_sameTables {a b : Inventory} (ha : a.WellFormed)
    (hb : b.WellFormed) (hfilter : a.filter = b.filter) (hsame : a.SameTables b) : a = b :=
  ha.ext hb hfilter (fun i => by rw [link?, hsame.links, link?])
    (fun i k => by rw [address?, addressTable, hsame.addresses, address?, addressTable])
    (fun k => by rw [hsame.routes])

namespace Network.Consistent

variable {filter : LinkFilter} {s : Network}

/-- Renumbering any interfaces changes nothing while the inventory is the same. -/
theorem renumber_self (h : s.Consistent filter) (hfit : ∀ i, NamesFit s.inventory s.numbering i)
    (changes : Changes) (now debounce : Nat) : s.renumber changes now debounce = s := by
  have hsettled : ∀ i, Settled s.inventory s.numbering i := fun i =>
    h.settled (hfit i) h.wellFormed rfl rfl
  have hkept : ∀ touched : List UInt32,
      touched.foldl (renumberOne s.inventory now debounce) s.numbering = s.numbering := by
    intro touched
    induction touched with
    | nil => rfl
    | cons i rest ih => rw [List.foldl_cons, renumberOne_of_settled (hsettled i), ih]
  rw [Network.renumber, hkept]

/-- A batch after which the tables are the same leaves the network as it was. -/
theorem deliver_of_sameTables (h : s.Consistent filter)
    (hfit : ∀ i, NamesFit s.inventory s.numbering i) {messages : List Message} {now debounce : Nat}
    (hsame : (s.deliver messages now debounce).1.inventory.SameTables s.inventory) :
    (s.deliver messages now debounce).1 = s := by
  have hinventory : (s.inventory.deliverAll messages).1 = s.inventory :=
    (h.wellFormed.deliverAll messages).eq_of_sameTables h.wellFormed
      (s.inventory.filter_deliverAll messages) hsame
  change { s with inventory := (s.inventory.deliverAll messages).1 }.renumber _ now debounce = s
  rw [hinventory]
  exact h.renumber_self hfit _ now debounce

end Network.Consistent

namespace BusMemo

/-- Who remembers a network has nothing to tell of it, whatever is reported. -/
theorem advance_remember_self (s : Network) (changes : Changes) :
    ((remember s).advance s changes).2 = [] := by
  cases hchanged : changes.isEmpty with
  | true => rw [advance, if_pos hchanged]
  | false =>
    obtain ⟨indices, _, _, hadvance⟩ := s.advance_remember s hchanged
    have hblock : ∀ i, s.block s i = [] := fun i => (s.block_eq_nil_iff s i).2 rfl
    have hoverview : s.overviewBlock s = [] :=
      (OverviewMemo.change_eq_nil_iff s.overview s.overview).2 ⟨rfl, rfl⟩
    rw [hadvance, hoverview, List.append_nil, List.flatMap_eq_nil_iff]
    exact fun i _ => hblock i

end BusMemo

namespace Chronicle

/-- The memories of planners that told of the network of the moment last: those that introduced it,
the one of the chronicle after one more plan, and any that was told of some change and planned. -/
inductive UpToDate (c : Chronicle) : BusMemo → Prop
  | introduced : UpToDate c (BusMemo.introduce c.network).1
  | planned : UpToDate c (c.act .plan).memo
  | told (memo : BusMemo) {changes : Changes} (hchanged : changes.isEmpty = false) :
      UpToDate c (memo.advance c.network changes).1

/-- Who told of the network of the moment last remembers it. -/
theorem UpToDate.eq_remember {filter : LinkFilter} {c : Chronicle} (hc : c.Faithful filter)
    {memo : BusMemo} (h : c.UpToDate memo) : memo = .remember c.network := by
  cases h with
  | introduced => rfl
  | planned => rw [(hc.act .plan).memo_eq, announced_plan]
  | told memo hchanged =>
    rw [BusMemo.advance, hchanged]
    rfl

/-- The names fit the numbers in every chronicle. -/
theorem namesFit_ofRun (filter : LinkFilter) (setup : List Update) (actions : List Action) :
    ∀ i, Network.NamesFit (ofRun filter setup actions).network.inventory
      (ofRun filter setup actions).network.numbering i := by
  refine List.foldlRecOn (motive := fun (c : Chronicle) =>
    ∀ i, Network.NamesFit c.network.inventory c.network.numbering i) actions _
    (Network.namesFit_updateAll filter setup) fun c hfit a _ => ?_
  cases a with
  | update u => exact Network.namesFit_update hfit u
  | plan => exact hfit

/-- A batch of messages after which the tables are the same leaves all numbers as they were, those
in use and those that are parked, and gives nothing to tell to anyone who told of the network of the
moment last. -/
theorem silent_of_sameTables (filter : LinkFilter) (setup : List Update) (actions : List Action)
    (messages : List Message) (now debounce : Nat) :
    let c := ofRun filter setup actions
    let after := c.network.deliver messages now debounce
    after.1.inventory.SameTables c.network.inventory →
      after.1.numbering = c.network.numbering ∧
      ∀ memo, c.UpToDate memo → (memo.advance after.1 after.2).2 = [] := by
  intro c after hsame
  have hc : c.Faithful filter := .ofRun filter setup actions
  have hafter : after.1 = c.network :=
    hc.succession.after.deliver_of_sameTables (namesFit_ofRun filter setup actions) hsame
  rw [hafter]
  refine ⟨rfl, fun memo hmemo => ?_⟩
  rw [hmemo.eq_remember hc]
  exact BusMemo.advance_remember_self c.network after.2

/-- A report about a switched-on wired link. -/
def wiredReport (index : UInt32) (name : String) : LinkReport :=
  { index, name := some name, layerType := 1, flags := 65539, oper := some .up }

/-- A chronicle in which the number of one of two links is parked. -/
def parked : Chronicle :=
  ofRun {}
    [.hear [.newLink (wiredReport 2 "eth0"), .newLink (wiredReport 3 "eth1")] 0 500]
    [.update (.hear [.delLink { index := 3 }] 10 500)]

/-- The link that is left is deleted, a report comes too early, and a snapshot has the link again:
nothing happened, and the other number stays parked as long as before. -/
theorem silent_recreation :
    let messages : List Message := [.events [.delLink { index := 2 }],
      .events [.newLink { index := 2, mtu := some 9000 }],
      .snapshot [.newLink (wiredReport 2 "eth0")]]
    let after := parked.network.deliver messages 20 500
    after.1.inventory.SameTables parked.network.inventory ∧ after.2.isEmpty = false ∧
      parked.network.numbering.nextRetirement? = some 510 ∧
      after.1.numbering = parked.network.numbering ∧
      ((parked.act .plan).memo.advance after.1 after.2).2 = [] := by
  intro messages after
  have hsame : after.1.inventory.SameTables parked.network.inventory :=
    ⟨by decide +kernel, by decide +kernel, by decide +kernel⟩
  obtain ⟨hnumbering, hsilent⟩ := silent_of_sameTables {} _ _ messages 20 500 hsame
  exact ⟨hsame, by decide +kernel, by decide +kernel, hnumbering, hsilent _ .planned⟩

end Chronicle

end LinkBus

import TrackedStorage.Proofs.TrackerFailover
import TrackedStorage.Proofs.WrittenNames
import Mathlib.Data.List.Dedup
import Mathlib.Data.List.Sort

set_option autoImplicit false

namespace TrackedStorage

def Endpoint.IsAddress (text : Bytes) : Prop := ∃ endpoint, ofAddress text = .ok endpoint

theorem Endpoint.isAddress_or_misnamed (text : Bytes) :
    IsAddress text ∨ ∃ fault, Misnamed text fault := by
  rcases named_or_misnamed text with ⟨endpoint, _, named⟩ | misnamed
  · exact .inl ⟨endpoint, ofAddress_of_named named⟩
  · exact .inr misnamed

theorem Endpoint.Misnamed.not_isAddress {text : Bytes} {fault : Fault}
    (misnamed : Misnamed text fault) : ¬ IsAddress text := by
  rintro ⟨endpoint, read⟩
  cases (ofAddress_of_misnamed misnamed).symm.trans read

/-- The report of a malformed address ends with the address. -/
theorem Endpoint.Misnamed.suffix_message {text : Bytes} {fault : Fault}
    (misnamed : Misnamed text fault) : text <:+ fault.message := by
  cases misnamed with
  | colonless => exact ⟨_, List.append_assoc _ _ _⟩
  | partless => exact ⟨_, List.append_assoc _ _ _⟩
  | portless => exact ⟨_, List.append_assoc _ _ _⟩

def Pool.fresh (capacity : UInt64) (address : Bytes) : Pool := ⟨address, capacity, [], 0, false⟩

/-- Nothing happens to the dialer, the links or the files when a client is built. -/
theorem World.create_eq_map (settings : Settings) (dialer : Dialer) (accessor : Option Accessor)
    (files : FileTree) : World.create settings dialer accessor files =
      (Client.create settings (some dialer) accessor).map fun client =>
        ⟨client, { links := [], dialer := dialer, dialed := [] }, files, 0, 0, 0⟩ := by
  unfold World.create
  cases Client.create settings (some dialer) accessor <;> rfl

namespace Client
open Endpoint (IsAddress Misnamed)

theorem mem_insertByAddress_iff {pool other : Pool} {pools : List Pool} :
    other ∈ insertByAddress pool pools ↔ other = pool ∨ other ∈ pools := by
  refine ⟨mem_insertByAddress, ?_⟩
  intro either
  induction pools with
  | nil => simpa [insertByAddress] using either
  | cons first rest ih =>
      rw [insertByAddress]
      split
      · rcases either with same | before
        · exact List.mem_cons_of_mem first (ih (.inl same))
        · rcases List.mem_cons.mp before with rfl | later
          · exact List.mem_cons_self
          · exact List.mem_cons_of_mem first (ih (.inr later))
      · exact List.mem_cons.mpr either

theorem mem_addresses_insertByAddress (pool : Pool) (pools : List Pool) (address : Bytes) :
    address ∈ (insertByAddress pool pools).map Pool.address ↔
      address ∈ pools.map Pool.address ∨ address = pool.address := by
  simp only [List.mem_map, mem_insertByAddress_iff, or_and_right, exists_or, exists_eq_left,
    eq_comm (a := address)]
  exact or_comm

section
variable {capacity : UInt64} (roomy : capacity ≠ 0) (dialer : Dialer)
include roomy

/-- An address gets a pool, unless it has one. -/
theorem addTracker_of_address {address : Bytes} (isAddress : IsAddress address)
    (pools : List Pool) : ∃ after, addTracker capacity (some dialer) pools address = .ok after ∧
      ∀ other, other ∈ after.map Pool.address ↔
        other ∈ pools.map Pool.address ∨ other = address := by
  obtain ⟨endpoint, read⟩ := isAddress
  unfold addTracker
  split
  · rename_i found
    obtain ⟨pool, isIn, same⟩ := List.any_eq_true.mp found
    refine ⟨pools, rfl, fun other => (or_iff_left_of_imp ?_).symm⟩
    rintro rfl
    exact List.mem_map.mpr ⟨pool, isIn, beq_iff_eq.mp same⟩
  · rw [Pool.create_of_capable roomy, read]
    exact ⟨_, rfl, mem_addresses_insertByAddress _ pools⟩

theorem addTracker_of_misnamed {address : Bytes} {fault : Fault}
    (misnamed : Misnamed address fault) {pools : List Pool}
    (absent : address ∉ pools.map Pool.address) :
    addTracker capacity (some dialer) pools address = .error fault := by
  unfold addTracker
  split
  · rename_i found
    obtain ⟨pool, isIn, same⟩ := List.any_eq_true.mp found
    exact absurd (List.mem_map.mpr ⟨pool, isIn, beq_iff_eq.mp same⟩) absent
  · rw [Pool.create_of_capable roomy, Endpoint.ofAddress_of_misnamed misnamed]
    rfl

/-- When all that is listed are addresses, exactly those without a pool get one. -/
theorem addTrackers_of_addresses {addresses : List Bytes}
    (good : ∀ address ∈ addresses, IsAddress address) (pools : List Pool) :
    ∃ after, addresses.foldlM (addTracker capacity (some dialer)) pools = .ok after ∧
      ∀ other, other ∈ after.map Pool.address ↔
        other ∈ pools.map Pool.address ∨ other ∈ addresses := by
  induction addresses generalizing pools with
  | nil => exact ⟨pools, rfl, by simp⟩
  | cons address rest ih =>
      obtain ⟨isAddress, later⟩ := List.forall_mem_cons.mp good
      obtain ⟨middle, first, one⟩ := addTracker_of_address roomy dialer isAddress pools
      obtain ⟨after, added, all⟩ := ih later middle
      refine ⟨after, ?_, fun other => ?_⟩
      · rw [List.foldlM_cons, first]
        exact added
      · rw [all, one, List.mem_cons, or_assoc]

/-- The first text in the list that is no address is the one that is reported. -/
theorem addTrackers_of_misnamed {front back : List Bytes} {address : Bytes} {fault : Fault}
    (good : ∀ earlier ∈ front, IsAddress earlier) (misnamed : Misnamed address fault) :
    (front ++ address :: back).foldlM (addTracker capacity (some dialer)) [] = .error fault := by
  obtain ⟨pools, added, listed⟩ := addTrackers_of_addresses roomy dialer good []
  have absent : address ∉ pools.map Pool.address := by
    intro isIn
    rcases (listed address).mp isIn with none | early
    · cases none
    · exact misnamed.not_isAddress (good address early)
  rw [List.foldlM_append, added]
  simp only [List.foldlM_cons, addTracker_of_misnamed roomy dialer misnamed absent, bind,
    Except.bind]

end

/-- What a client can be built from. -/
structure Suits (settings : Settings) (dialer : Option Dialer) (accessor : Option Accessor) :
    Prop where
  listed : settings.trackers ≠ []
  roomy : settings.maxConnections ≠ 0
  accessible : accessor.isSome = true
  dialable : dialer.isSome = true
  addressed : ∀ address ∈ settings.trackers, IsAddress address

/-- The fault of anything else, in the order in which they count. -/
inductive Unfit (settings : Settings) (dialer : Option Dialer) (accessor : Option Accessor) :
    Fault → Prop
  | trackerless (unlisted : settings.trackers = []) :
      Unfit settings dialer accessor (.setting .noTracker)
  | roomless (listed : settings.trackers ≠ []) (none : settings.maxConnections = 0) :
      Unfit settings dialer accessor (.setting .noConnections)
  | accessorless (listed : settings.trackers ≠ []) (roomy : settings.maxConnections ≠ 0)
      (none : accessor = none) : Unfit settings dialer accessor (.setting .noAccessor)
  | dialerless (listed : settings.trackers ≠ []) (roomy : settings.maxConnections ≠ 0)
      (accessible : accessor.isSome = true) (none : dialer = none) :
      Unfit settings dialer accessor (.setting .noDialer)
  | misnamed {front back : List Bytes} {address : Bytes} {fault : Fault}
      (parts : settings.trackers = front ++ address :: back)
      (roomy : settings.maxConnections ≠ 0) (accessible : accessor.isSome = true)
      (dialable : dialer.isSome = true) (first : ∀ earlier ∈ front, IsAddress earlier)
      (misnamed : Misnamed address fault) : Unfit settings dialer accessor fault

structure IsNew (settings : Settings) (accessor : Option Accessor) (client : Client) : Prop where
  ascending : client.trackers.Pairwise fun one other => one.address < other.address
  addresses : ∀ address, address ∈ client.trackers.map Pool.address ↔ address ∈ settings.trackers
  fresh : ∀ pool ∈ client.trackers, pool = Pool.fresh settings.maxConnections pool.address
  storages : client.storages = []
  capacity : client.capacity = settings.maxConnections
  accessor : accessor = some client.accessor

variable {settings other : Settings} {dialer : Option Dialer} {accessor : Option Accessor}
  {client : Client}

/-- Everything that is refused is refused as a matter of the settings. -/
theorem Unfit.setting {fault : Fault} (unfit : Unfit settings dialer accessor fault) :
    ∃ cause, fault = .setting cause := by
  cases unfit with
  | trackerless => exact ⟨_, rfl⟩
  | roomless => exact ⟨_, rfl⟩
  | accessorless => exact ⟨_, rfl⟩
  | dialerless => exact ⟨_, rfl⟩
  | misnamed _ _ _ _ _ misnamed => exact misnamed.setting

/-- Among texts of which not all are addresses there is a first one that is none. -/
theorem addresses_or_misnamed (texts : List Bytes) : (∀ text ∈ texts, IsAddress text) ∨
    ∃ front text back fault, texts = front ++ text :: back ∧
      (∀ earlier ∈ front, IsAddress earlier) ∧ Misnamed text fault := by
  induction texts with
  | nil => exact .inl fun _ isIn => absurd isIn List.not_mem_nil
  | cons first rest ih =>
      rcases Endpoint.isAddress_or_misnamed first with isAddress | ⟨fault, misnamed⟩
      · rcases ih with good | ⟨front, text, back, fault, rfl, early, misnamed⟩
        · exact .inl (List.forall_mem_cons.mpr ⟨isAddress, good⟩)
        · exact .inr ⟨first :: front, text, back, fault, rfl,
            List.forall_mem_cons.mpr ⟨isAddress, early⟩, misnamed⟩
      · exact .inr ⟨[], first, rest, fault, rfl, by simp, misnamed⟩

theorem suits_or_unfit (settings : Settings) (dialer : Option Dialer)
    (accessor : Option Accessor) :
    Suits settings dialer accessor ∨ ∃ fault, Unfit settings dialer accessor fault := by
  by_cases unlisted : settings.trackers = []
  · exact .inr ⟨_, .trackerless unlisted⟩
  · by_cases none : settings.maxConnections = 0
    · exact .inr ⟨_, .roomless unlisted none⟩
    · cases given : accessor with
      | none => exact .inr ⟨_, .accessorless unlisted none rfl⟩
      | some files =>
          cases called : dialer with
          | none => exact .inr ⟨_, .dialerless unlisted none rfl rfl⟩
          | some dialer =>
              rcases addresses_or_misnamed settings.trackers with
                good | ⟨front, text, back, fault, parts, first, misnamed⟩
              · exact .inl ⟨unlisted, none, rfl, rfl, good⟩
              · exact .inr ⟨fault, .misnamed parts none rfl rfl first misnamed⟩

/-- With settings that are valid on their own, building a client comes down to adding trackers. -/
theorem create_of_listed (listed : settings.trackers ≠ []) (roomy : settings.maxConnections ≠ 0)
    (dialer : Option Dialer) (accessor : Accessor) : create settings dialer (some accessor) =
      (settings.trackers.foldlM (addTracker settings.maxConnections dialer) []).map
        fun trackers => ⟨trackers, [], settings.maxConnections, accessor⟩ := by
  have valid : settings.validate = .ok () := by
    rw [Settings.validate, if_neg listed, if_neg roomy]
  rw [create, valid]
  simp only [bind, Except.bind]
  cases settings.trackers.foldlM (addTracker settings.maxConnections dialer) [] <;> rfl

theorem create_of_unfit {fault : Fault} (unfit : Unfit settings dialer accessor fault) :
    create settings dialer accessor = .error fault := by
  cases unfit with
  | trackerless unlisted =>
      unfold create
      rw [Settings.validate, if_pos unlisted]
      rfl
  | roomless listed none =>
      unfold create
      rw [Settings.validate, if_neg listed, if_pos none]
      rfl
  | accessorless listed roomy none =>
      subst none
      rw [create, Settings.validate, if_neg listed, if_neg roomy]
      rfl
  | dialerless listed roomy accessible none =>
      subst none
      obtain ⟨files, rfl⟩ := Option.isSome_iff_exists.mp accessible
      obtain ⟨first, rest, parts⟩ := List.exists_cons_of_ne_nil listed
      have refused : Pool.create first settings.maxConnections none =
          .error (.setting .noDialer) := by
        rw [Pool.create, if_neg roomy]
        rfl
      rw [create_of_listed listed roomy, parts, List.foldlM_cons, addTracker, refused]
      rfl
  | misnamed parts roomy accessible dialable first misnamed =>
      obtain ⟨files, rfl⟩ := Option.isSome_iff_exists.mp accessible
      obtain ⟨dialer, rfl⟩ := Option.isSome_iff_exists.mp dialable
      have listed : settings.trackers ≠ [] := by simp [parts]
      rw [create_of_listed listed roomy, parts,
        addTrackers_of_misnamed roomy dialer first misnamed]
      rfl

theorem exists_create_of_suits (suits : Suits settings dialer accessor) :
    ∃ client, create settings dialer accessor = .ok client ∧ IsNew settings accessor client := by
  obtain ⟨listed, roomy, accessible, dialable, addressed⟩ := suits
  obtain ⟨files, rfl⟩ := Option.isSome_iff_exists.mp accessible
  obtain ⟨dialer, rfl⟩ := Option.isSome_iff_exists.mp dialable
  obtain ⟨pools, added, addresses⟩ := addTrackers_of_addresses roomy dialer addressed []
  have created : create settings (some dialer) (some files) =
      .ok ⟨pools, [], settings.maxConnections, files⟩ := by
    rw [create_of_listed listed roomy, added]
    rfl
  refine ⟨_, created, sorted_of_create created, ?_, ?_, rfl, rfl, rfl⟩
  · simpa using addresses
  · intro pool isIn
    obtain ⟨address, new⟩ := (Client.create_eq created).2 pool isIn
    rw [(Pool.create_eq new).1]
    rfl

/-- A new client is settled by which addresses are listed, and by the capacity of its pools. -/
theorem IsNew.unique {one another : Client} (first : IsNew settings accessor one)
    (second : IsNew other accessor another)
    (capacity : other.maxConnections = settings.maxConnections)
    (same : ∀ address, address ∈ other.trackers ↔ address ∈ settings.trackers) :
    another = one := by
  have addresses : another.trackers.map Pool.address = one.trackers.map Pool.address := by
    refine List.Pairwise.eq_of_mem_iff (List.pairwise_map.mpr second.ascending)
      (List.pairwise_map.mpr first.ascending) ?_
    intro address
    rw [second.addresses, first.addresses, same]
  have rebuilt {settings : Settings} {client : Client} (new : IsNew settings accessor client) :
      client.trackers =
        (client.trackers.map Pool.address).map (Pool.fresh settings.maxConnections) := by
    rw [List.map_map]
    exact (List.map_id _).symm.trans (List.map_congr_left new.fresh)
  have trackers : another.trackers = one.trackers := by
    rw [rebuilt second, rebuilt first, addresses, capacity]
  have accessors : another.accessor = one.accessor :=
    Option.some.inj (second.accessor.symm.trans first.accessor)
  have capacities : another.capacity = one.capacity := by
    rw [second.capacity, first.capacity, capacity]
  have storages : another.storages = one.storages := second.storages.trans first.storages.symm
  cases one
  cases another
  simp only at trackers storages capacities accessors
  rw [trackers, storages, capacities, accessors]

/-- A client is built, or what it was to be built from has a fault. -/
theorem create_iff (settings : Settings) (dialer : Option Dialer) (accessor : Option Accessor) :
    (∀ client, create settings dialer accessor = .ok client ↔
      Suits settings dialer accessor ∧ IsNew settings accessor client) ∧
    ∀ fault, create settings dialer accessor = .error fault ↔
      Unfit settings dialer accessor fault := by
  refine Fault.eq_iff_of_decided ?_ ?_ fun _ => create_of_unfit
  · rcases suits_or_unfit settings dialer accessor with suits | unfit
    · obtain ⟨client, -, new⟩ := exists_create_of_suits suits
      exact .inl ⟨client, suits, new⟩
    · exact .inr unfit
  · rintro client ⟨suits, new⟩
    obtain ⟨built, created, isNew⟩ := exists_create_of_suits suits
    rw [created, isNew.unique new rfl fun _ => Iff.rfl]

theorem Suits.of_same_trackers (suits : Suits settings dialer accessor)
    (capacity : other.maxConnections = settings.maxConnections)
    (same : ∀ address, address ∈ other.trackers ↔ address ∈ settings.trackers) :
    Suits other dialer accessor := by
  obtain ⟨first, rest, parts⟩ := List.exists_cons_of_ne_nil suits.listed
  have isIn : first ∈ other.trackers := (same first).mpr (by simp [parts])
  refine ⟨List.ne_nil_of_mem isIn, ?_, suits.accessible, suits.dialable, ?_⟩
  · rw [capacity]
    exact suits.roomy
  · intro address listed
    exact suits.addressed address ((same address).mp listed)

/-- A tracker that is listed several times has one pool. -/
theorem IsNew.perm_dedup (new : IsNew settings accessor client) :
    (client.trackers.map Pool.address).Perm settings.trackers.dedup := by
  have distinct : (client.trackers.map Pool.address).Nodup := by
    refine List.Pairwise.imp ?_ (List.pairwise_map.mpr new.ascending)
    rintro one _ less rfl
    exact List.lt_irrefl one less
  rw [List.perm_ext_iff_of_nodup distinct (List.nodup_dedup _)]
  intro address
  rw [new.addresses, List.mem_dedup]

/-- A client is built exactly if a tracker is listed, connections are allowed, there are an accessor
and a dialer, and all that is listed are addresses. It then has one pool for each address in the
list, with the capacity that the settings allow and without a link, and no pool for a storage node;
only which addresses are listed counts for it, not where in the list and how often. Everything else
is refused as a matter of the settings, and if a malformed address is all that is wrong, the first
one in the list is reported. The dialer is left as it is, and none behaves so that it would make a
difference. -/
theorem built_exactly (settings : Settings) (dialer : Option Dialer)
    (accessor : Option Accessor) :
    let ended := create settings dialer accessor
    ((∃ client, ended = .ok client) ↔
      settings.trackers ≠ [] ∧ 0 < settings.maxConnections ∧ accessor.isSome = true ∧
        dialer.isSome = true ∧ ∀ address ∈ settings.trackers, IsAddress address) ∧
    (∀ client, ended = .ok client →
      (client.trackers.map Pool.address).Perm settings.trackers.dedup ∧
      (∀ pool ∈ client.trackers, pool.capacity = settings.maxConnections ∧ pool.live = 0 ∧
        pool.idle = [] ∧ pool.isDestroyed = false) ∧
      client.storages = [] ∧
      ∀ other : Settings, other.maxConnections = settings.maxConnections →
        (∀ address, address ∈ other.trackers ↔ address ∈ settings.trackers) →
        create other dialer accessor = .ok client) ∧
    ((∀ client, ended ≠ .ok client) → ∃ cause, ended = .error (.setting cause)) ∧
    (∀ front address back, settings.trackers = front ++ address :: back →
      (∀ earlier ∈ front, IsAddress earlier) → ¬ IsAddress address →
      0 < settings.maxConnections → accessor.isSome = true → dialer.isSome = true →
      ∃ fault, ended = .error fault ∧ Misnamed address fault ∧ address <:+ fault.message) ∧
    ∀ given files, dialer = some given →
      (World.create settings given accessor files = ended.map fun client =>
        ⟨client, { links := [], dialer := given, dialed := [] }, files, 0, 0, 0⟩) ∧
      ∀ another, create settings (some another) accessor = ended := by
  intro ended
  obtain ⟨built, refused⟩ := create_iff settings dialer accessor
  refine ⟨?_, ?_, ?_, ?_, ?_⟩
  · constructor
    · rintro ⟨client, created⟩
      obtain ⟨suits, -⟩ := (built client).mp created
      exact ⟨suits.listed, UInt64.pos_iff_ne_zero.mpr suits.roomy, suits.accessible,
        suits.dialable, suits.addressed⟩
    · rintro ⟨listed, roomy, accessible, dialable, addressed⟩
      obtain ⟨client, created, -⟩ := exists_create_of_suits
        ⟨listed, UInt64.pos_iff_ne_zero.mp roomy, accessible, dialable, addressed⟩
      exact ⟨client, created⟩
  · intro client created
    obtain ⟨suits, new⟩ := (built client).mp created
    refine ⟨new.perm_dedup, ?_, new.storages, ?_⟩
    · intro pool isIn
      rw [new.fresh pool isIn]
      exact ⟨rfl, rfl, rfl, rfl⟩
    · intro other capacity same
      obtain ⟨another, rebuilt, isNew⟩ :=
        exists_create_of_suits (suits.of_same_trackers capacity same)
      rw [rebuilt, new.unique isNew capacity same]
  · intro unbuilt
    rcases suits_or_unfit settings dialer accessor with suits | ⟨fault, unfit⟩
    · obtain ⟨client, created, -⟩ := exists_create_of_suits suits
      exact absurd created (unbuilt client)
    · obtain ⟨cause, rfl⟩ := unfit.setting
      exact ⟨cause, create_of_unfit unfit⟩
  · intro front address back parts good malformed roomy accessible dialable
    rcases Endpoint.isAddress_or_misnamed address with isAddress | ⟨fault, misnamed⟩
    · exact absurd isAddress malformed
    · have unfit : Unfit settings dialer accessor fault :=
        .misnamed parts (UInt64.pos_iff_ne_zero.mp roomy) accessible dialable good misnamed
      exact ⟨fault, create_of_unfit unfit, misnamed, misnamed.suffix_message⟩
  · rintro given files rfl
    exact ⟨World.create_eq_map settings given accessor files, fun another => rfl⟩

/-- A tracker that is listed twice, in front of and behind another one; and two malformed addresses
behind a good one. -/
theorem built_exactly_of_repeated_trackers :
    let one := Bytes.ofText "t:1"
    let two := Bytes.ofText "t:2"
    let settings : Settings := ⟨[two, one, two], 3, 5, 30, [], []⟩
    let shorter : Settings := ⟨[one, two], 3, 6, 7, [], []⟩
    let wrong : Settings := ⟨[one, Bytes.ofText "t", Bytes.ofText "t:0"], 3, 5, 30, [], []⟩
    let dialer : Dialer := .script ⟨[], []⟩
    let client : Client := ⟨[⟨one, 3, [], 0, false⟩, ⟨two, 3, [], 0, false⟩], [], 3, .disk⟩
    create settings (some dialer) (some .disk) = .ok client ∧
      (client.trackers.map Pool.address).Perm [one, two] ∧
      create shorter (some dialer) (some .disk) = .ok client ∧
      World.create settings dialer (some .disk) .blank =
        .ok ⟨client, { links := [], dialer := dialer, dialed := [] }, .blank, 0, 0, 0⟩ ∧
      (∃ cause, create wrong (some dialer) (some .disk) = .error (.setting cause)) ∧
      ∃ fault, create wrong (some dialer) (some .disk) = .error fault ∧
        Bytes.ofText "t" <:+ fault.message := by
  intro one two settings shorter wrong dialer client
  have created : create settings (some dialer) (some .disk) = .ok client := by decide +kernel
  obtain ⟨-, new, -, -, quiet⟩ := built_exactly settings (some dialer) (some .disk)
  obtain ⟨addresses, -, -, again⟩ := new client created
  obtain ⟨-, -, failing, naming, -⟩ := built_exactly wrong (some dialer) (some .disk)
  have isAddress : IsAddress one := ⟨⟨Bytes.ofText "t", 1⟩, by decide⟩
  have malformed : ¬ IsAddress (Bytes.ofText "t") := by
    rintro ⟨endpoint, read⟩
    cases read
  obtain ⟨fault, refused, -, named⟩ := naming [one] (Bytes.ofText "t") [Bytes.ofText "t:0"] rfl
    (List.forall_mem_singleton.mpr isAddress) malformed (by decide) rfl rfl
  refine ⟨created, ?_, ?_, ?_, ?_, fault, refused, named⟩
  · exact addresses.trans (.of_eq (by decide))
  · refine again shorter rfl fun address => ?_
    simp only [shorter, settings, List.mem_cons, List.not_mem_nil, or_false]
    exact ⟨Or.inr, fun listed => listed.elim Or.inr id⟩
  · rw [(quiet dialer .blank rfl).1, created]
    rfl
  · refine failing fun built done => ?_
    cases refused.symm.trans done

end Client

end TrackedStorage

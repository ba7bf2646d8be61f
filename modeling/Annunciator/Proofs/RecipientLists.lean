import Annunciator.ClassRegistry
import Annunciator.Proofs.SortedMaps

/-!
# Replacing recipient lists

A new recipient list takes all slots of its class. Its valid recipients are asked for, also those
behind an empty slot; and a device that is dropped from the class, from any of its slots, is given
up unless another class still sends events to it, which only a slot in front of the first empty one
lets it do. `ClassRegistry.replaceRecipients` is opened once, in `replaceRecipients_eq_ok_iff`;
what comes of a replacement is read off that equation.
-/

namespace Annunciator

/-! ## Slots -/

/-- A destination is in a slot that only filled ones are in front of. -/
def IsAhead (slots : List (Option Destination)) (destination : Destination) : Prop :=
  ∃ (front : List Destination) (back : List (Option Destination)),
    slots = front.map some ++ some destination :: back

/-- The reachable destinations are those in front of the first empty slot. -/
theorem mem_reachable_iff {destination : Destination} {slots : List (Option Destination)} :
    destination ∈ reachable slots ↔ IsAhead slots destination := by
  induction slots with
  | nil => simp [reachable, IsAhead]
  | cons slot rest inductionHypothesis =>
      cases slot with
      | none =>
          refine iff_of_false (fun member => nomatch member) ?_
          rintro ⟨front, back, same⟩
          cases front <;> cases same
      | some first =>
          rw [reachable, List.mem_cons, inductionHypothesis]
          constructor
          · rintro (rfl | ⟨front, back, rfl⟩)
            · exact ⟨[], rest, rfl⟩
            · exact ⟨first :: front, back, rfl⟩
          · rintro ⟨front, back, same⟩
            cases front with
            | nil =>
                cases same
                exact .inl rfl
            | cons next front =>
                cases same
                exact .inr ⟨front, back, rfl⟩

theorem mem_filled_iff {destination : Destination} {slots : List (Option Destination)} :
    destination ∈ filled slots ↔ some destination ∈ slots := by
  simp [filled]

/-- What is in front of the first empty slot is in a filled slot. -/
theorem mem_filled_of_mem_reachable {destination : Destination}
    {slots : List (Option Destination)} (member : destination ∈ reachable slots) :
    destination ∈ filled slots := by
  obtain ⟨front, back, rfl⟩ := mem_reachable_iff.mp member
  rw [mem_filled_iff]
  simp

/-- The recipients of a list that can exist, in list order. -/
def validRecipients (entries : List Destination) : List Recipient :=
  (entries.map (·.recipient)).filter (·.isValid)

/-- A valid recipient of a list is one that an entry names and that can exist. -/
theorem mem_validRecipients_iff {entries : List Destination} {recipient : Recipient} :
    recipient ∈ validRecipients entries ↔
      ∃ entry ∈ entries, entry.recipient.isValid = true ∧ entry.recipient = recipient := by
  simp only [validRecipients, List.mem_filter, List.mem_map]
  constructor
  · rintro ⟨⟨entry, listed, rfl⟩, valid⟩
    exact ⟨entry, listed, valid, rfl⟩
  · rintro ⟨entry, listed, valid, rfl⟩
    exact ⟨⟨entry, listed, rfl⟩, valid⟩

/-- The slots of a list are filled with its valid recipients. -/
theorem recipients_filled_slots (entries : List Destination) :
    (filled (entries.map slotFor)).map (·.recipient) = validRecipients entries := by
  induction entries with
  | nil => rfl
  | cons entry rest inductionHypothesis =>
      by_cases valid : entry.recipient.isValid = true <;>
        simp_all [filled, slotFor, validRecipients]

/-- A recipient that is given by its address stands for no device. -/
theorem Recipient.device?_eq_some_iff {recipient : Recipient} {device : DeviceInstance} :
    recipient.device? = some device ↔ recipient = .device device := by
  cases recipient <;> simp [device?]

namespace NotificationClass

/-- A device is in one of the slots of a class, behind an empty one or not. -/
def Lists (group : NotificationClass) (device : DeviceInstance) : Prop :=
  ∃ destination, some destination ∈ group.slots ∧ destination.recipient = .device device

/-- A device is in front of the first empty slot of a class. -/
def Tells (group : NotificationClass) (device : DeviceInstance) : Prop :=
  ∃ destination, IsAhead group.slots destination ∧ destination.recipient = .device device

theorem references_iff {group : NotificationClass} {device : DeviceInstance} :
    group.references device = true ↔
      ∃ destination ∈ group.recipients, destination.recipient = .device device := by
  rw [references, List.any_eq_true]
  simp only [decide_eq_true_eq]

/-- The devices that a class refers to are those that it tells. -/
theorem references_iff_tells {group : NotificationClass} {device : DeviceInstance} :
    group.references device = true ↔ group.Tells device := by
  simp only [references_iff, recipients, mem_reachable_iff, Tells]

/-- Only a listed device is told. -/
theorem Tells.lists {group : NotificationClass} {device : DeviceInstance}
    (tells : group.Tells device) : group.Lists device := by
  obtain ⟨destination, ahead, toDevice⟩ := tells
  exact ⟨destination, mem_filled_iff.mp (mem_filled_of_mem_reachable (mem_reachable_iff.mpr ahead)),
    toDevice⟩

/-- The devices in filled slots are those that the class lists. -/
theorem mem_devices_filled_iff {group : NotificationClass} {device : DeviceInstance} :
    device ∈ (filled group.slots).filterMap (·.recipient.device?) ↔ group.Lists device := by
  simp only [List.mem_filterMap, mem_filled_iff, Recipient.device?_eq_some_iff, Lists]

/-- A class with another list has a device in a slot if it is a valid recipient of the list. -/
theorem lists_iff_of_listed {group : NotificationClass} {entries : List Destination}
    {device : DeviceInstance} :
    Lists { group with slots := entries.map slotFor } device ↔
      .device device ∈ validRecipients entries := by
  rw [← recipients_filled_slots, List.mem_map]
  simp only [mem_filled_iff, Lists]

/-- A list that fits is taken over; it asks for its valid recipients, and releases the devices of
the old slots that are not among them. -/
theorem setRecipients_eq (group : NotificationClass) (entries : List Destination) :
    group.setRecipients entries =
      if recipientCapacity < entries.length then .error .noSpaceToWriteProperty
      else .ok
        (⟨validRecipients entries, SortedMap.distinct
            (((filled group.slots).filterMap (·.recipient.device?)).filter fun device =>
              !(validRecipients entries).contains (.device device))⟩,
          { group with slots := entries.map slotFor }) := by
  rw [setRecipients]
  simp only [recipients_filled_slots]

end NotificationClass

namespace ClassRegistry

/-- Every class is under its own number. -/
def IsNumbered (registry : ClassRegistry) : Prop :=
  ∀ number group, registry.lookup? number = some group -> group.number = number

theorem isNumbered_empty : IsNumbered .empty := fun _ _ known => nomatch known

/-- A class that is added comes under its own number. -/
theorem IsNumbered.insert {registry : ClassRegistry} (numbered : registry.IsNumbered)
    (group : NotificationClass) : (registry.insert group).IsNumbered := by
  intro number present known
  rw [lookup?, ClassRegistry.insert, SortedMap.get?_insert] at known
  split at known
  · next here =>
      cases known
      exact here
  · exact numbered number present known

/-- The device recipients of a registry are the devices that some class tells. -/
theorem mem_deviceRecipients_iff {registry : ClassRegistry} {device : DeviceInstance} :
    device ∈ registry.deviceRecipients ↔
      ∃ number group, registry.lookup? number = some group ∧ group.Tells device := by
  simp only [deviceRecipients, SortedMap.mem_distinct_iff, List.mem_filterMap, List.mem_flatMap,
    SortedMap.mem_values_iff, Recipient.device?_eq_some_iff,
    ← NotificationClass.references_iff_tells, NotificationClass.references_iff]
  constructor
  · rintro ⟨destination, ⟨group, ⟨number, known⟩, reached⟩, toDevice⟩
    exact ⟨number, group, known, destination, reached, toDevice⟩
  · rintro ⟨number, group, known, destination, reached, toDevice⟩
    exact ⟨destination, ⟨group, ⟨number, known⟩, reached⟩, toDevice⟩

/-- Beside a class, a device is referred to if a class of another number tells it. -/
theorem referencedBeside_iff {registry : ClassRegistry} {number : UInt32}
    {device : DeviceInstance} :
    registry.referencedBeside number device = true ↔
      ∃ other group, registry.lookup? other = some group ∧ group.number ≠ number ∧
        group.Tells device := by
  simp only [referencedBeside, List.any_eq_true, SortedMap.mem_values_iff, Bool.and_eq_true,
    decide_eq_true_eq, NotificationClass.references_iff_tells]
  constructor
  · rintro ⟨group, ⟨other, known⟩, tells⟩
    exact ⟨other, group, known, tells⟩
  · rintro ⟨other, group, known, tells⟩
    exact ⟨group, ⟨other, known⟩, tells⟩

/-! ## What a replacement does -/

/-- The registry in which a class has another list. -/
def relisted (registry : ClassRegistry) (number : UInt32) (group : NotificationClass)
    (entries : List Destination) : ClassRegistry :=
  ⟨registry.classes.modify number fun _ => { group with slots := entries.map slotFor }⟩

section Replacement

variable {registry after : ClassRegistry} {number : UInt32} {group : NotificationClass}
  {entries : List Destination} {update : RecipientUpdate}

/-- A list is accepted for a known class if it fits. It goes into the slots of that class, its
valid recipients are asked for, and a device that is in no valid entry any more is released if no
other class refers to it. -/
theorem replaceRecipients_eq_ok_iff :
    registry.replaceRecipients number entries = .ok (update, after) ↔
      ∃ group, registry.lookup? number = some group ∧ entries.length ≤ recipientCapacity ∧
        after = registry.relisted number group entries ∧
        update.bind = validRecipients entries ∧
        update.released = (SortedMap.distinct
          (((filled group.slots).filterMap (·.recipient.device?)).filter fun device =>
            !(validRecipients entries).contains (.device device))).filter fun device =>
              !after.referencedBeside number device := by
  rw [replaceRecipients]
  cases known : registry.lookup? number with
  | none => simp
  | some group =>
      dsimp only
      rw [bind_eq_ok_iff, NotificationClass.setRecipients_eq]
      constructor
      · rintro ⟨⟨listed, changed⟩, accepted, same⟩
        split at accepted
        · cases accepted
        · next fits =>
            cases accepted
            cases same
            exact ⟨group, rfl, Nat.le_of_not_lt fits, rfl, rfl, rfl⟩
      · rintro ⟨_, same, fits, rfl, bind, released⟩
        cases same
        refine ⟨_, if_neg (Nat.not_lt_of_le fits), ?_⟩
        obtain ⟨_, _⟩ := update
        cases bind
        cases released
        rfl

/-- A known class and a list that fits are all that it takes. -/
theorem exists_replaced (known : registry.lookup? number = some group)
    (fits : entries.length ≤ recipientCapacity) :
    ∃ update, registry.replaceRecipients number entries =
      .ok (update, registry.relisted number group entries) :=
  ⟨⟨_, _⟩, replaceRecipients_eq_ok_iff.mpr ⟨group, known, fits, rfl, rfl, rfl⟩⟩

/-- Only the class itself has other slots. -/
theorem lookup?_relisted (known : registry.lookup? number = some group)
    (entries : List Destination) (other : UInt32) :
    (registry.relisted number group entries).lookup? other =
      if number = other then some { group with slots := entries.map slotFor }
      else registry.lookup? other := by
  rw [lookup?, relisted, SortedMap.get?_modify]
  split
  · next here =>
      subst here
      rw [← lookup?, known, Option.map_some]
  · rfl

/-- A device is released if it was in some slot of the class, is no valid recipient of the new
list, and is told by no class of another number. -/
theorem mem_released_iff
    (replaced : registry.replaceRecipients number entries = .ok (update, after))
    (known : registry.lookup? number = some group) {device : DeviceInstance} :
    device ∈ update.released ↔
      group.Lists device ∧ .device device ∉ validRecipients entries ∧
        ∀ other present, other ≠ number -> registry.lookup? other = some present ->
          present.number ≠ number -> ¬ present.Tells device := by
  obtain ⟨_, same, -, rfl, -, released⟩ := replaceRecipients_eq_ok_iff.mp replaced
  cases known.symm.trans same
  simp only [released, List.mem_filter, SortedMap.mem_distinct_iff,
    NotificationClass.mem_devices_filled_iff, Bool.not_eq_true', ← Bool.not_eq_true,
    referencedBeside_iff, List.contains_iff_mem, and_assoc]
  refine and_congr_right fun _ => and_congr_right fun unlisted => ?_
  constructor
  · intro untold other present apart there differs tells
    refine untold ⟨other, present, ?_, differs, tells⟩
    rw [lookup?_relisted known, if_neg apart.symm, there]
  · rintro untold ⟨other, present, there, differs, tells⟩
    rw [lookup?_relisted known] at there
    split at there
    · -- The class itself tells nobody but valid recipients of the new list.
      cases there
      exact unlisted (NotificationClass.lists_iff_of_listed.mp tells.lists)
    · next apart => exact untold other present (Ne.symm apart) there differs tells

end Replacement

/-! ## Registries with every class under its own number -/

/-- What comes of a replacement. -/
structure Exchanged (registry : ClassRegistry) (number : UInt32) (group : NotificationClass)
    (entries : List Destination) (update : RecipientUpdate) (after : ClassRegistry) : Prop where
  /-- The class has the entries in its slots, invalid ones as empty slots, and is otherwise as it
  was. So are all other classes. -/
  classes : ∀ other, after.lookup? other =
    if other = number then
      some { group with
        slots := entries.map fun entry => if entry.recipient.isValid then some entry else none }
    else registry.lookup? other
  /-- The valid recipients are asked for in list order, also those behind an empty slot. -/
  bind : update.bind = (entries.map (·.recipient)).filter (·.isValid)
  ascending : update.released.Pairwise (· < ·)
  /-- A device is released if it was in some slot of the class, is in no valid entry, and is in
  front of the first empty slot of no other class. -/
  released : ∀ device, device ∈ update.released ↔
    group.Lists device ∧
      (∀ entry ∈ entries, entry.recipient.isValid = true -> entry.recipient ≠ .device device) ∧
      ∀ other present, other ≠ number -> registry.lookup? other = some present ->
        ¬ present.Tells device

section Exchanged

variable {registry after : ClassRegistry} {number : UInt32} {group : NotificationClass}
  {entries : List Destination} {update : RecipientUpdate}

/-- With every class under its own number, an accepted list exchanges nothing but what
`Exchanged` says. -/
theorem exchanged_of_replaced (numbered : registry.IsNumbered)
    (known : registry.lookup? number = some group)
    (replaced : registry.replaceRecipients number entries = .ok (update, after)) :
    registry.Exchanged number group entries update after := by
  obtain ⟨_, same, -, rfl, bind, released⟩ := replaceRecipients_eq_ok_iff.mp replaced
  cases known.symm.trans same
  refine ⟨fun other => ?_, bind, ?_, fun device => ?_⟩
  · rw [lookup?_relisted known]
    simp only [eq_comm (a := number)]
    rfl
  · rw [released]
    exact (SortedMap.distinct_ascending _).sublist List.filter_sublist
  · rw [mem_released_iff replaced known, mem_validRecipients_iff]
    refine and_congr_right fun _ => and_congr ?_ ?_
    · simp only [not_exists, not_and]
    · -- Under its own number every other class is one of another number.
      constructor
      · intro untold other present apart there
        exact untold other present apart there (by rw [numbered other present there]; exact apart)
      · intro untold other present apart there _
        exact untold other present apart there

variable (exchanged : registry.Exchanged number group entries update after)
include exchanged

/-- Nobody is released that some class still tells. -/
theorem Exchanged.not_mem_deviceRecipients {device : DeviceInstance}
    (released : device ∈ update.released) : device ∉ after.deviceRecipients := by
  obtain ⟨-, unlisted, untold⟩ := (exchanged.released device).mp released
  rw [mem_deviceRecipients_iff]
  rintro ⟨other, present, there, tells⟩
  rw [exchanged.classes] at there
  split at there
  · cases there
    have listed := NotificationClass.lists_iff_of_listed.mp tells.lists
    obtain ⟨entry, member, valid, toDevice⟩ := mem_validRecipients_iff.mp listed
    exact unlisted entry member valid toDevice
  · next apart => exact untold other present apart there tells

/-- A device that was in a slot of the class is released if it is in no slot any more. -/
theorem Exchanged.mem_released_of_unlisted {device : DeviceInstance} (listed : group.Lists device)
    (unlisted : ∀ other present, after.lookup? other = some present -> ¬ present.Lists device) :
    device ∈ update.released := by
  refine (exchanged.released device).mpr ⟨listed, ?_, ?_⟩
  · intro entry member valid toDevice
    refine unlisted number _ ((exchanged.classes number).trans (if_pos rfl)) ?_
    refine ⟨entry, List.mem_map.mpr ⟨entry, member, if_pos valid⟩, toDevice⟩
  · intro other present apart there tells
    refine unlisted other present ?_ tells.lists
    rw [exchanged.classes, if_neg apart, there]

end Exchanged

/-- A list that fits is accepted for every class of a registry. It takes all slots of the class and
changes nothing else in the registry; its valid recipients are asked for, and released is exactly
who was in a slot of the class and is needed neither by the list nor by another class. So nobody
is released that a class still tells, and everybody is who is in no slot of any class any more. -/
theorem replaceRecipients_exchanges {registry : ClassRegistry} (numbered : registry.IsNumbered)
    {number : UInt32} {group : NotificationClass}
    (known : registry.lookup? number = some group) {entries : List Destination}
    (fits : entries.length ≤ recipientCapacity) :
    ∃ update after, registry.replaceRecipients number entries = .ok (update, after) ∧
      registry.Exchanged number group entries update after ∧
      (∀ device ∈ update.released, device ∉ after.deviceRecipients) ∧
      ∀ device, group.Lists device ->
        (∀ other present, after.lookup? other = some present -> ¬ present.Lists device) ->
        device ∈ update.released := by
  obtain ⟨update, replaced⟩ := exists_replaced known fits
  have exchanges := exchanged_of_replaced numbered known replaced
  refine ⟨update, _, replaced, exchanges, ?_, ?_⟩
  · exact fun device released => exchanges.not_mem_deviceRecipients released
  · exact fun device listed unlisted => exchanges.mem_released_of_unlisted listed unlisted

/-- Two classes that both have an empty slot. The first one lists one device twice behind its own,
and both list two devices. -/
def switchboard : ClassRegistry :=
  (empty.insert ⟨1, .replicate 1, .none,
      [some (.always (.device ⟨5⟩)), none, some (.always (.device ⟨7⟩)),
        some (.always (.device ⟨6⟩)), some (.always (.device ⟨6⟩))]⟩).insert
    ⟨2, .replicate 2, .none,
      [some (.always (.device ⟨7⟩)), none, some (.always (.device ⟨6⟩))]⟩

/-- The first class is given a list with a device that cannot exist in its middle. Device 5 is
still asked for behind it, device 7 is kept for the second class, and device 6 is released, as the
second class has it behind its empty slot only. -/
theorem switchboard_exchanges :
    ∃ update after, switchboard.replaceRecipients 1
        [.always (.device ⟨9⟩), .always (.device ⟨0⟩), .always (.device ⟨5⟩)] =
          .ok (update, after) ∧
      update.bind = [.device ⟨9⟩, .device ⟨5⟩] ∧ update.released = [⟨6⟩] ∧
      ⟨6⟩ ∉ after.deviceRecipients := by
  have numbered : switchboard.IsNumbered := (isNumbered_empty.insert _).insert _
  obtain ⟨update, after, replaced, exchanged, untold, -⟩ :=
    @replaceRecipients_exchanges switchboard numbered 1 _ rfl
      [.always (.device ⟨9⟩), .always (.device ⟨0⟩), .always (.device ⟨5⟩)] (by decide)
  have released : update.released = [⟨6⟩] :=
    congrArg (fun result => result.1.released) (Except.ok.inj (replaced.symm.trans rfl))
  exact ⟨update, after, replaced, exchanged.bind, released, untold ⟨6⟩ (by rw [released]; simp)⟩

end ClassRegistry

end Annunciator

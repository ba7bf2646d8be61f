import Annunciator.Station.Basic

/-!
# Recipient lists

Replacing the recipient list of a class changes which addresses the station wants
to know, and the new list is saved.
-/

namespace Annunciator.Station

/-- The setting that holds the recipient list of a class. -/
def recipientListKey (number : UInt32) : String :=
  "notification-class:" ++ toString number.toNat ++ "/recipient-list"

/-- Replace the recipient list of a class: release the devices that are no longer
listed, request the bindings of those that are, and save the list. -/
def setRecipients (number : UInt32) (entries : List Destination) :
    Activity Station (Except ProtocolError RecipientUpdate) := do
  match (<- Activity.get).registry.replaceRecipients number entries with
  | .error error => pure (.error error)
  | .ok (update, registry) =>
      Activity.modify fun station => { station with registry }
      onNetwork (Network.settle update)
      match registry.lookup? number with
      | some group =>
          onSettings (SettingsStore.persist (recipientListKey number) group.slots)
      | none => pure ()
      pure (.ok update)

end Annunciator.Station

import Annunciator.Activity

/-!
# The settings store

The latest saved value of every setting, by name.
-/

namespace Annunciator

/-- A store of settings. -/
structure SettingsStore where
  values : SortedMap String Json
  /-- A failure that every save runs into, if one is put in its way. -/
  fault : Option StoreError

namespace SettingsStore

/-- The store without settings. -/
def empty : SettingsStore := ⟨∅, none⟩

/-- The value of a setting. -/
def get? (store : SettingsStore) (key : String) : Option Json := store.values.get? key

/-- The names of all settings in ascending order. -/
def keys (store : SettingsStore) : List String := store.values.keys

/-- Save a setting. What cannot be saved leaves the store as it is. -/
def save (key : String) (value : Json) : Activity SettingsStore (Option StoreError) := do
  let failure := (<- Activity.get).fault
  Activity.emit (.save key value failure)
  if failure.isNone then
    Activity.modify fun store => { store with values := store.values.insert key value }
  pure failure

/-- Save a setting and carry on whether or not it could be saved. -/
def persist {α : Type} [JsonForm α] (key : String) (value : α) :
    Activity SettingsStore Unit := do
  let _ <- save key (toJson value)

end SettingsStore

end Annunciator

/-
  Galoy.Notifications.UserSettings

  The notification settings of one user
  (`notifications/src/user_notification_settings/entity.rs`).

  The entity keeps no state besides its event log.  Each query is a left fold
  over the log with its own rule: the last `ChannelDisabled` / `ChannelEnabled`
  of a channel wins, the disabled categories of a channel and the push tokens
  are sets built by insertion and removal, the locale is the last one set, and
  the e-mail address is the last one added unless one was removed since.  Each
  command asks the query it is about and pushes an event only when the answer
  would change.

  Above the log sits what the settings are to a reader of them,
  `NotificationSettingsModel`: the disabled channels, the disabled categories of
  each channel, the locale, the push tokens and the e-mail address.  `view` reads
  it off the queries, one event changes it by `applyEvent` (`view_push`), and
  every command is a direct update of it, `SettingsCommand.update`, which the
  entity's command refines (`SettingsCommand.apply_spec`).
-/

import Galoy.EsEntity.Events
import Mathlib.Data.Finset.Basic

namespace Galoy

/-- `GaloyUserId`. -/
structure GaloyUserId where
  inner : String
  deriving DecidableEq, Repr

/-- `UserNotificationSettingsId`, a uuid. -/
structure UserNotificationSettingsId where
  uuid : ℕ
  deriving DecidableEq, Repr

/-- `GaloyLocale`. -/
structure GaloyLocale where
  inner : String
  deriving DecidableEq, Repr

/-- `PushDeviceToken`. -/
structure PushDeviceToken where
  inner : String
  deriving DecidableEq, Repr

/-- `GaloyEmailAddress`. -/
structure GaloyEmailAddress where
  inner : String
  deriving DecidableEq, Repr

inductive UserNotificationChannel where
  | Push
  deriving DecidableEq, Repr

inductive UserNotificationCategory where
  | Circles
  | Payments
  | AdminNotification
  | Marketing
  | Price
  | Security
  deriving DecidableEq, Repr

inductive UserNotificationSettingsEvent where
  | Initialized (id : UserNotificationSettingsId) (galoyUserId : GaloyUserId)
  | ChannelDisabled (channel : UserNotificationChannel)
  | ChannelEnabled (channel : UserNotificationChannel)
  | CategoryDisabled (channel : UserNotificationChannel) (category : UserNotificationCategory)
  | CategoryEnabled (channel : UserNotificationChannel) (category : UserNotificationCategory)
  | LocaleUpdated (locale : GaloyLocale)
  | LocaleSetToDefault
  | PushDeviceTokenAdded (token : PushDeviceToken)
  | PushDeviceTokenRemoved (token : PushDeviceToken)
  | EmailAddressAdded (addr : GaloyEmailAddress)
  | EmailAddressRemoved (addr : GaloyEmailAddress)
  deriving DecidableEq, Repr

structure UserNotificationSettings where
  id : UserNotificationSettingsId
  galoyUserId : GaloyUserId
  events : EntityEvents UserNotificationSettingsId UserNotificationSettingsEvent
  deriving DecidableEq, Repr

namespace UserNotificationSettings

open UserNotificationSettingsEvent

-- ============================================================================
-- Queries: one left fold over the log each
-- ============================================================================

/-- One event's effect on `locale`. -/
def localeStep (ret : Option GaloyLocale) : UserNotificationSettingsEvent → Option GaloyLocale
  | LocaleUpdated locale => some locale
  | LocaleSetToDefault => none
  | _ => ret

def locale (s : UserNotificationSettings) : Option GaloyLocale :=
  s.events.iter.foldl localeStep none

/-- One event's effect on `is_channel_enabled channel`. -/
def channelEnabledStep (channel : UserNotificationChannel) (acc : Bool) :
    UserNotificationSettingsEvent → Bool
  | ChannelDisabled c => if c = channel then false else acc
  | ChannelEnabled c => if c = channel then true else acc
  | _ => acc

def isChannelEnabled (s : UserNotificationSettings) (channel : UserNotificationChannel) : Bool :=
  s.events.iter.foldl (channelEnabledStep channel) true

/-- One event's effect on `disabled_categories_for channel`. -/
def disabledCategoriesStep (channel : UserNotificationChannel)
    (acc : Finset UserNotificationCategory) : UserNotificationSettingsEvent →
      Finset UserNotificationCategory
  | CategoryDisabled c category => if c = channel then insert category acc else acc
  | CategoryEnabled c category => if c = channel then acc.erase category else acc
  | _ => acc

def disabledCategoriesFor (s : UserNotificationSettings) (channel : UserNotificationChannel) :
    Finset UserNotificationCategory :=
  s.events.iter.foldl (disabledCategoriesStep channel) ∅

def shouldSendNotification (s : UserNotificationSettings) (channel : UserNotificationChannel)
    (category : UserNotificationCategory) : Bool :=
  s.isChannelEnabled channel && !decide (category ∈ s.disabledCategoriesFor channel)

/-- One event's effect on `push_device_tokens`. -/
def pushDeviceTokensStep (acc : Finset PushDeviceToken) :
    UserNotificationSettingsEvent → Finset PushDeviceToken
  | PushDeviceTokenAdded token => insert token acc
  | PushDeviceTokenRemoved token => acc.erase token
  | _ => acc

def pushDeviceTokens (s : UserNotificationSettings) : Finset PushDeviceToken :=
  s.events.iter.foldl pushDeviceTokensStep ∅

/-- One event's effect on `email_address`: a removal clears whichever address is set. -/
def emailAddressStep (acc : Option GaloyEmailAddress) :
    UserNotificationSettingsEvent → Option GaloyEmailAddress
  | EmailAddressAdded addr => some addr
  | EmailAddressRemoved _ => none
  | _ => acc

def emailAddress (s : UserNotificationSettings) : Option GaloyEmailAddress :=
  s.events.iter.foldl emailAddressStep none

-- ============================================================================
-- Commands: push an event when the query would change
-- ============================================================================

def updateLocale (s : UserNotificationSettings) (locale : GaloyLocale) : UserNotificationSettings :=
  if s.locale ≠ some locale then { s with events := s.events.push (LocaleUpdated locale) } else s

def setLocaleToDefault (s : UserNotificationSettings) : UserNotificationSettings :=
  if s.locale.isSome then { s with events := s.events.push LocaleSetToDefault } else s

def disableChannel (s : UserNotificationSettings) (channel : UserNotificationChannel) :
    UserNotificationSettings :=
  if !s.isChannelEnabled channel then s
  else { s with events := s.events.push (ChannelDisabled channel) }

def enableChannel (s : UserNotificationSettings) (channel : UserNotificationChannel) :
    UserNotificationSettings :=
  if s.isChannelEnabled channel then s
  else { s with events := s.events.push (ChannelEnabled channel) }

def disableCategory (s : UserNotificationSettings) (channel : UserNotificationChannel)
    (category : UserNotificationCategory) : UserNotificationSettings :=
  if category ∈ s.disabledCategoriesFor channel then s
  else { s with events := s.events.push (CategoryDisabled channel category) }

def enableCategory (s : UserNotificationSettings) (channel : UserNotificationChannel)
    (category : UserNotificationCategory) : UserNotificationSettings :=
  if category ∉ s.disabledCategoriesFor channel then s
  else { s with events := s.events.push (CategoryEnabled channel category) }

def addPushDeviceToken (s : UserNotificationSettings) (token : PushDeviceToken) :
    UserNotificationSettings :=
  if token ∈ s.pushDeviceTokens then s
  else { s with events := s.events.push (PushDeviceTokenAdded token) }

def removePushDeviceToken (s : UserNotificationSettings) (token : PushDeviceToken) :
    UserNotificationSettings :=
  if token ∉ s.pushDeviceTokens then s
  else { s with events := s.events.push (PushDeviceTokenRemoved token) }

/-- A different address already set is removed before the new one is added. -/
def updateEmailAddress (s : UserNotificationSettings) (addr : GaloyEmailAddress) :
    UserNotificationSettings :=
  match s.emailAddress with
  | some existing =>
    if existing = addr then s
    else { s with events := (s.events.push (EmailAddressRemoved existing)).push (EmailAddressAdded addr) }
  | none => { s with events := s.events.push (EmailAddressAdded addr) }

def removeEmailAddress (s : UserNotificationSettings) : UserNotificationSettings :=
  match s.emailAddress with
  | some addr => { s with events := s.events.push (EmailAddressRemoved addr) }
  | none => s

-- ============================================================================
-- Hydration and creation
-- ============================================================================

/-- The builder's `id` and `galoy_user_id`: those of the last `Initialized` event. -/
def initializedStep (fields : Option UserNotificationSettingsId × Option GaloyUserId) :
    UserNotificationSettingsEvent → Option UserNotificationSettingsId × Option GaloyUserId
  | Initialized id galoyUserId => (some id, some galoyUserId)
  | _ => fields

/-- `TryFrom<EntityEvents<_>>`: the builder fails on the first field no event set. -/
def tryFrom (events : EntityEvents UserNotificationSettingsId UserNotificationSettingsEvent) :
    Except EntityError UserNotificationSettings :=
  match events.iter.foldl initializedStep (none, none) with
  | (some id, some galoyUserId) => .ok ⟨id, galoyUserId, events⟩
  | (none, _) => .error (.UninitializedFieldError "id")
  | (some _, none) => .error (.UninitializedFieldError "galoy_user_id")

/-- Hydrating keeps the events it was given. -/
theorem tryFrom_events {events : EntityEvents UserNotificationSettingsId UserNotificationSettingsEvent}
    {s : UserNotificationSettings} (h : tryFrom events = .ok s) : s.events = events := by
  unfold tryFrom at h
  split at h
  · cases h
    rfl
  · cases h
  · cases h

/-- `new`, with the freshly drawn id as an argument; the source unwraps the
    result, which `new_eq_ok` shows never fails. -/
def new (galoyUserId : GaloyUserId) (id : UserNotificationSettingsId) :
    Except EntityError UserNotificationSettings :=
  tryFrom (EntityEvents.init id [Initialized id galoyUserId])

theorem new_eq_ok (galoyUserId : GaloyUserId) (id : UserNotificationSettingsId) :
    new galoyUserId id = .ok ⟨id, galoyUserId, EntityEvents.init id [Initialized id galoyUserId]⟩ :=
  rfl

-- ============================================================================
-- The queries after one more event
-- ============================================================================

section Push

variable (s : UserNotificationSettings) (e : UserNotificationSettingsEvent)

@[simp] theorem locale_push :
    ({ s with events := s.events.push e } : UserNotificationSettings).locale = localeStep s.locale e := by
  simp only [locale, EntityEvents.iter_push, List.foldl_append, List.foldl_cons, List.foldl_nil]

@[simp] theorem isChannelEnabled_push (channel : UserNotificationChannel) :
    ({ s with events := s.events.push e } : UserNotificationSettings).isChannelEnabled channel =
      channelEnabledStep channel (s.isChannelEnabled channel) e := by
  simp only [isChannelEnabled, EntityEvents.iter_push, List.foldl_append, List.foldl_cons,
    List.foldl_nil]

@[simp] theorem disabledCategoriesFor_push (channel : UserNotificationChannel) :
    ({ s with events := s.events.push e } : UserNotificationSettings).disabledCategoriesFor channel =
      disabledCategoriesStep channel (s.disabledCategoriesFor channel) e := by
  simp only [disabledCategoriesFor, EntityEvents.iter_push, List.foldl_append, List.foldl_cons,
    List.foldl_nil]

@[simp] theorem pushDeviceTokens_push :
    ({ s with events := s.events.push e } : UserNotificationSettings).pushDeviceTokens =
      pushDeviceTokensStep s.pushDeviceTokens e := by
  simp only [pushDeviceTokens, EntityEvents.iter_push, List.foldl_append, List.foldl_cons,
    List.foldl_nil]

@[simp] theorem emailAddress_push :
    ({ s with events := s.events.push e } : UserNotificationSettings).emailAddress =
      emailAddressStep s.emailAddress e := by
  simp only [emailAddress, EntityEvents.iter_push, List.foldl_append, List.foldl_cons,
    List.foldl_nil]

end Push

end UserNotificationSettings

-- ============================================================================
-- The settings as a reader sees them
-- ============================================================================

/-- The settings of one user: what the queries answer, with no log. -/
@[ext] structure NotificationSettingsModel where
  disabledChannels : Set UserNotificationChannel
  disabledCategories : UserNotificationChannel → Set UserNotificationCategory
  locale : Option GaloyLocale
  pushDeviceTokens : Set PushDeviceToken
  emailAddress : Option GaloyEmailAddress

namespace NotificationSettingsModel

/-- Every channel and category enabled, no locale, no token, no address. -/
def initial : NotificationSettingsModel := ⟨∅, fun _ => ∅, none, ∅, none⟩

/-- What one event says about the settings. -/
def applyEvent (m : NotificationSettingsModel) :
    UserNotificationSettingsEvent → NotificationSettingsModel
  | .Initialized _ _ => m
  | .ChannelDisabled channel => { m with disabledChannels := insert channel m.disabledChannels }
  | .ChannelEnabled channel => { m with disabledChannels := m.disabledChannels \ {channel} }
  | .CategoryDisabled channel category =>
    { m with disabledCategories :=
        Function.update m.disabledCategories channel (insert category (m.disabledCategories channel)) }
  | .CategoryEnabled channel category =>
    { m with disabledCategories :=
        Function.update m.disabledCategories channel (m.disabledCategories channel \ {category}) }
  | .LocaleUpdated locale => { m with locale := some locale }
  | .LocaleSetToDefault => { m with locale := none }
  | .PushDeviceTokenAdded token => { m with pushDeviceTokens := insert token m.pushDeviceTokens }
  | .PushDeviceTokenRemoved token => { m with pushDeviceTokens := m.pushDeviceTokens \ {token} }
  | .EmailAddressAdded addr => { m with emailAddress := some addr }
  | .EmailAddressRemoved _ => { m with emailAddress := none }

end NotificationSettingsModel

namespace UserNotificationSettings

open UserNotificationSettingsEvent NotificationSettingsModel

/-- The settings that the queries of `s` answer. -/
def view (s : UserNotificationSettings) : NotificationSettingsModel where
  disabledChannels := {channel | s.isChannelEnabled channel = false}
  disabledCategories channel := ↑(s.disabledCategoriesFor channel)
  locale := s.locale
  pushDeviceTokens := ↑s.pushDeviceTokens
  emailAddress := s.emailAddress

/-- The five folds move together: one more event changes the settings they
    answer as `applyEvent` says. -/
theorem view_push (s : UserNotificationSettings) (e : UserNotificationSettingsEvent) :
    view { s with events := s.events.push e } = (view s).applyEvent e := by
  cases e <;> ext <;> simp [view, applyEvent, localeStep, channelEnabledStep,
    disabledCategoriesStep, pushDeviceTokensStep, emailAddressStep]

/-- A new entity answers the initial settings. -/
theorem view_init (id : UserNotificationSettingsId) (galoyUserId : GaloyUserId) :
    view ⟨id, galoyUserId, EntityEvents.init id [Initialized id galoyUserId]⟩ = initial := by
  ext <;> simp [view, initial, isChannelEnabled, disabledCategoriesFor, locale, pushDeviceTokens,
    emailAddress, channelEnabledStep, disabledCategoriesStep, localeStep, pushDeviceTokensStep,
    emailAddressStep]

theorem isChannelEnabled_iff (s : UserNotificationSettings) (channel : UserNotificationChannel) :
    s.isChannelEnabled channel = true ↔ channel ∉ (view s).disabledChannels := by
  simp [view]

/-- `should_send_notification` is read off the settings: the channel is on and
    the category is not off for it. -/
theorem shouldSendNotification_iff (s : UserNotificationSettings) (channel : UserNotificationChannel)
    (category : UserNotificationCategory) :
    s.shouldSendNotification channel category = true ↔
      channel ∉ (view s).disabledChannels ∧ category ∉ (view s).disabledCategories channel := by
  simp [shouldSendNotification, view]

end UserNotificationSettings

-- ============================================================================
-- Commands and the parts of the settings they are about
-- ============================================================================

/-- The commands of the entity, with their arguments. -/
inductive SettingsCommand where
  | disableChannel (channel : UserNotificationChannel)
  | enableChannel (channel : UserNotificationChannel)
  | disableCategory (channel : UserNotificationChannel) (category : UserNotificationCategory)
  | enableCategory (channel : UserNotificationChannel) (category : UserNotificationCategory)
  | updateLocale (locale : GaloyLocale)
  | setLocaleToDefault
  | addPushDeviceToken (token : PushDeviceToken)
  | removePushDeviceToken (token : PushDeviceToken)
  | updateEmailAddress (addr : GaloyEmailAddress)
  | removeEmailAddress
  deriving DecidableEq, Repr

/-- A part of the settings: one channel's switch, one category of one channel,
    the locale, one push token, the e-mail address. -/
inductive SettingsPart where
  | channel (channel : UserNotificationChannel)
  | category (channel : UserNotificationChannel) (category : UserNotificationCategory)
  | locale
  | pushDeviceToken (token : PushDeviceToken)
  | emailAddress
  deriving DecidableEq, Repr

namespace NotificationSettingsModel

/-- `m` and `m'` agree on every part of the settings other than `p`. -/
def AgreeOutside (p : SettingsPart) (m m' : NotificationSettingsModel) : Prop :=
  (∀ channel, p ≠ .channel channel →
    (channel ∈ m.disabledChannels ↔ channel ∈ m'.disabledChannels)) ∧
  (∀ channel category, p ≠ .category channel category →
    (category ∈ m.disabledCategories channel ↔ category ∈ m'.disabledCategories channel)) ∧
  (p ≠ .locale → m.locale = m'.locale) ∧
  (∀ token, p ≠ .pushDeviceToken token →
    (token ∈ m.pushDeviceTokens ↔ token ∈ m'.pushDeviceTokens)) ∧
  (p ≠ .emailAddress → m.emailAddress = m'.emailAddress)

end NotificationSettingsModel

namespace SettingsCommand

open NotificationSettingsModel (AgreeOutside)

/-- The entity's command. -/
def apply : SettingsCommand → UserNotificationSettings → UserNotificationSettings
  | disableChannel channel, s => s.disableChannel channel
  | enableChannel channel, s => s.enableChannel channel
  | disableCategory channel category, s => s.disableCategory channel category
  | enableCategory channel category, s => s.enableCategory channel category
  | updateLocale locale, s => s.updateLocale locale
  | setLocaleToDefault, s => s.setLocaleToDefault
  | addPushDeviceToken token, s => s.addPushDeviceToken token
  | removePushDeviceToken token, s => s.removePushDeviceToken token
  | updateEmailAddress addr, s => s.updateEmailAddress addr
  | removeEmailAddress, s => s.removeEmailAddress

/-- What the command is meant to do to the settings. -/
def update : SettingsCommand → NotificationSettingsModel → NotificationSettingsModel
  | disableChannel channel, m => { m with disabledChannels := insert channel m.disabledChannels }
  | enableChannel channel, m => { m with disabledChannels := m.disabledChannels \ {channel} }
  | disableCategory channel category, m =>
    { m with disabledCategories :=
        Function.update m.disabledCategories channel (insert category (m.disabledCategories channel)) }
  | enableCategory channel category, m =>
    { m with disabledCategories :=
        Function.update m.disabledCategories channel (m.disabledCategories channel \ {category}) }
  | updateLocale locale, m => { m with locale := some locale }
  | setLocaleToDefault, m => { m with locale := none }
  | addPushDeviceToken token, m => { m with pushDeviceTokens := insert token m.pushDeviceTokens }
  | removePushDeviceToken token, m => { m with pushDeviceTokens := m.pushDeviceTokens \ {token} }
  | updateEmailAddress addr, m => { m with emailAddress := some addr }
  | removeEmailAddress, m => { m with emailAddress := none }

/-- The part of the settings the command is about. -/
def part : SettingsCommand → SettingsPart
  | disableChannel channel | enableChannel channel => .channel channel
  | disableCategory channel category | enableCategory channel category => .category channel category
  | updateLocale _ | setLocaleToDefault => .locale
  | addPushDeviceToken token | removePushDeviceToken token => .pushDeviceToken token
  | updateEmailAddress _ | removeEmailAddress => .emailAddress

/-- The entity after a sequence of commands. -/
def applyAll (s : UserNotificationSettings) (commands : List SettingsCommand) :
    UserNotificationSettings :=
  commands.foldl (fun s c => c.apply s) s

/-- The settings after a sequence of commands. -/
def updateAll (m : NotificationSettingsModel) (commands : List SettingsCommand) :
    NotificationSettingsModel :=
  commands.foldl (fun m c => c.update m) m

-- ============================================================================
-- The reference updates
-- ============================================================================

/-- A command changes nothing outside its own part. -/
theorem update_agreeOutside (c : SettingsCommand) (m : NotificationSettingsModel) :
    AgreeOutside c.part m (c.update m) := by
  -- each part other than the command's own is read through a field it does not
  -- write, or at a key other than the one it writes
  cases c <;> simp [AgreeOutside, update, part] <;> grind

/-- Doing a command twice is doing it once. -/
theorem update_update (c : SettingsCommand) (m : NotificationSettingsModel) :
    c.update (c.update m) = c.update m := by
  cases c <;> simp [update, Function.update_idem, sdiff_idem]

-- ============================================================================
-- The entity's commands refine the reference updates
-- ============================================================================

open UserNotificationSettings (view view_push)
open UserNotificationSettingsEvent

/-- A command that leaves the entity alone when its event would not change the
    settings, and pushes the event otherwise, appends exactly when the settings
    change. -/
theorem guarded_push_spec {s : UserNotificationSettings} {e : UserNotificationSettingsEvent}
    {noop : Prop} [Decidable noop] (hNoop : noop ↔ (view s).applyEvent e = view s) :
    ∃ appended, (if noop then s else { s with events := s.events.push e }) =
        { s with events := { s.events with newEvents := s.events.newEvents ++ appended } } ∧
      view (if noop then s else { s with events := s.events.push e }) = (view s).applyEvent e ∧
      (appended = [] ↔ (view s).applyEvent e = view s) := by
  by_cases h : noop
  · have hSame := hNoop.mp h
    refine ⟨[], ?_, ?_, ?_⟩
    · rw [if_pos h, List.append_nil]
    · rw [if_pos h, hSame]
    · exact iff_of_true rfl hSame
  · have hChanged : (view s).applyEvent e ≠ view s := fun hSame => h (hNoop.mpr hSame)
    refine ⟨[e], ?_, ?_, ?_⟩
    · rw [if_neg h]
      rfl
    · rw [if_neg h, view_push]
    · exact iff_of_false (List.cons_ne_nil e []) hChanged

/-- `update_email_address`: the three cases of the address already set. -/
theorem updateEmailAddress_spec (s : UserNotificationSettings) (addr : GaloyEmailAddress) :
    ∃ appended, s.updateEmailAddress addr =
        { s with events := { s.events with newEvents := s.events.newEvents ++ appended } } ∧
      view (s.updateEmailAddress addr) = (updateEmailAddress addr).update (view s) ∧
      (appended = [] ↔ (updateEmailAddress addr).update (view s) = view s) := by
  have hNoop : (updateEmailAddress addr).update (view s) = view s ↔ s.emailAddress = some addr := by
    simp only [update, view, NotificationSettingsModel.ext_iff, true_and]
    exact eq_comm
  unfold UserNotificationSettings.updateEmailAddress
  rcases hAddr : s.emailAddress with _ | existing <;> dsimp only
  · -- no address yet: the new one is added
    refine ⟨[EmailAddressAdded addr], rfl, ?_, ?_⟩
    · rw [view_push]
      simp [view, update, NotificationSettingsModel.applyEvent]
    · simp [hNoop, hAddr]
  · by_cases hSame : existing = addr
    · -- the same address: nothing to do
      have hUnchanged := hNoop.mpr (by rw [hAddr, hSame])
      refine ⟨[], ?_, ?_, iff_of_true rfl hUnchanged⟩
      · rw [if_pos hSame, List.append_nil]
      · rw [if_pos hSame, hUnchanged]
    · -- another address: it is removed, then the new one is added
      have hChanged : (updateEmailAddress addr).update (view s) ≠ view s := by
        rw [Ne, hNoop, hAddr]
        simpa using hSame
      refine ⟨[EmailAddressRemoved existing, EmailAddressAdded addr], ?_, ?_,
        iff_of_false (List.cons_ne_nil _ _) hChanged⟩
      · rw [if_neg hSame]
        simp [EntityEvents.push]
      · rw [if_neg hSame]
        rw [view_push { s with events := s.events.push (EmailAddressRemoved existing) }, view_push]
        simp [view, update, NotificationSettingsModel.applyEvent]

/-- `remove_email_address`: a removal only when an address is set. -/
theorem removeEmailAddress_spec (s : UserNotificationSettings) :
    ∃ appended, s.removeEmailAddress =
        { s with events := { s.events with newEvents := s.events.newEvents ++ appended } } ∧
      view s.removeEmailAddress = removeEmailAddress.update (view s) ∧
      (appended = [] ↔ removeEmailAddress.update (view s) = view s) := by
  have hNoop : removeEmailAddress.update (view s) = view s ↔ s.emailAddress = none := by
    simp only [update, view, NotificationSettingsModel.ext_iff, true_and]
    exact eq_comm
  unfold UserNotificationSettings.removeEmailAddress
  rcases hAddr : s.emailAddress with _ | addr <;> dsimp only
  · have hUnchanged := hNoop.mpr hAddr
    exact ⟨[], by rw [List.append_nil], by rw [hUnchanged], iff_of_true rfl hUnchanged⟩
  · refine ⟨[EmailAddressRemoved addr], rfl, ?_, ?_⟩
    · rw [view_push]
      simp [view, update, NotificationSettingsModel.applyEvent]
    · simp [hNoop, hAddr]

/-- What one command does: it appends events (possibly none) and nothing else,
    the settings the queries then answer are its reference update, and it
    appends nothing exactly when that update changes nothing. -/
theorem apply_spec (c : SettingsCommand) (s : UserNotificationSettings) :
    ∃ appended, c.apply s =
        { s with events := { s.events with newEvents := s.events.newEvents ++ appended } } ∧
      view (c.apply s) = c.update (view s) ∧ (appended = [] ↔ c.update (view s) = view s) := by
  cases c with
  -- a guarded push whose guard is the update changing nothing
  | disableChannel | enableChannel | disableCategory | enableCategory | addPushDeviceToken
    | removePushDeviceToken =>
    exact guarded_push_spec
      (by simp [view, NotificationSettingsModel.applyEvent, NotificationSettingsModel.ext_iff])
  | updateLocale locale =>
    -- the source pushes when `locale() != Some(locale)`: the same test, branches swapped
    simp only [apply, UserNotificationSettings.updateLocale, ne_eq, ite_not]
    refine guarded_push_spec ?_
    simp only [view, NotificationSettingsModel.applyEvent, NotificationSettingsModel.ext_iff, true_and,
      and_true]
    exact eq_comm
  | setLocaleToDefault =>
    simp only [apply, UserNotificationSettings.setLocaleToDefault]
    rw [← ite_not]
    refine guarded_push_spec ?_
    simp [view, NotificationSettingsModel.applyEvent, NotificationSettingsModel.ext_iff]
    exact eq_comm
  | updateEmailAddress addr => exact updateEmailAddress_spec s addr
  | removeEmailAddress => exact removeEmailAddress_spec s

theorem view_apply (c : SettingsCommand) (s : UserNotificationSettings) :
    view (c.apply s) = c.update (view s) := by
  obtain ⟨_, _, hView, _⟩ := apply_spec c s
  exact hView

/-- Over any run of commands the entity answers the reference settings. -/
theorem view_applyAll (s : UserNotificationSettings) (commands : List SettingsCommand) :
    view (applyAll s commands) = updateAll (view s) commands :=
  (List.foldl_hom view fun s c => (view_apply c s).symm).symm

theorem apply_agreeOutside (c : SettingsCommand) (s : UserNotificationSettings) :
    AgreeOutside c.part (view s) (view (c.apply s)) := by
  rw [view_apply]
  exact update_agreeOutside c (view s)

theorem apply_appends_iff (c : SettingsCommand) (s : UserNotificationSettings) :
    ∃ appended, c.apply s =
        { s with events := { s.events with newEvents := s.events.newEvents ++ appended } } ∧
      (appended ≠ [] ↔ view (c.apply s) ≠ view s) := by
  obtain ⟨appended, hApply, hView, hNone⟩ := apply_spec c s
  refine ⟨appended, hApply, ?_⟩
  rw [hView]
  exact not_congr hNone

/-- A command repeated at once appends nothing: its update is already done. -/
theorem apply_apply (c : SettingsCommand) (s : UserNotificationSettings) :
    c.apply (c.apply s) = c.apply s := by
  obtain ⟨appended, hApply, -, hNone⟩ := apply_spec c (c.apply s)
  have hUnchanged : c.update (view (c.apply s)) = view (c.apply s) := by
    rw [view_apply, update_update]
  rw [hApply, hNone.mpr hUnchanged, List.append_nil]

/-- The entity refines the reference settings: a new entity starts from the
    initial settings; after any commands from any entity, each query answers
    the reference update of what the entity answered before; each command
    changes only its own part; a command appends events exactly when it changes
    the settings, so repeating it at once is a no-op. -/
theorem applyAll_refines_update :
    (∀ (galoyUserId : GaloyUserId) (id : UserNotificationSettingsId), ∃ s,
      UserNotificationSettings.new galoyUserId id = .ok s ∧ view s = NotificationSettingsModel.initial) ∧
    (∀ (s : UserNotificationSettings) (commands : List SettingsCommand),
      (∀ channel, (applyAll s commands).isChannelEnabled channel = true ↔
        channel ∉ (updateAll (view s) commands).disabledChannels) ∧
      (∀ channel, ((applyAll s commands).disabledCategoriesFor channel : Set UserNotificationCategory) =
        (updateAll (view s) commands).disabledCategories channel) ∧
      (∀ channel category, (applyAll s commands).shouldSendNotification channel category = true ↔
        channel ∉ (updateAll (view s) commands).disabledChannels ∧
          category ∉ (updateAll (view s) commands).disabledCategories channel) ∧
      (applyAll s commands).locale = (updateAll (view s) commands).locale ∧
      ((applyAll s commands).pushDeviceTokens : Set PushDeviceToken) =
        (updateAll (view s) commands).pushDeviceTokens ∧
      (applyAll s commands).emailAddress = (updateAll (view s) commands).emailAddress) ∧
    (∀ (c : SettingsCommand) (s : UserNotificationSettings),
      AgreeOutside c.part (view s) (view (c.apply s))) ∧
    (∀ (c : SettingsCommand) (s : UserNotificationSettings), ∃ appended, c.apply s =
        { s with events := { s.events with newEvents := s.events.newEvents ++ appended } } ∧
      (appended ≠ [] ↔ view (c.apply s) ≠ view s)) ∧
    (∀ (c : SettingsCommand) (s : UserNotificationSettings), c.apply (c.apply s) = c.apply s) := by
  refine ⟨?_, ?_, apply_agreeOutside, apply_appends_iff, apply_apply⟩
  · intro galoyUserId id
    exact ⟨_, UserNotificationSettings.new_eq_ok galoyUserId id,
      UserNotificationSettings.view_init id galoyUserId⟩
  · intro s commands
    -- each query is one field of the settings the whole run refines
    have hRun := view_applyAll s commands
    refine ⟨fun channel => ?_, fun channel => ?_, fun channel category => ?_, ?_, ?_, ?_⟩
    · rw [UserNotificationSettings.isChannelEnabled_iff, hRun]
    · rw [← hRun]
      rfl
    · rw [UserNotificationSettings.shouldSendNotification_iff, hRun]
    · rw [← hRun]
      rfl
    · rw [← hRun]
      rfl
    · rw [← hRun]
      rfl

end SettingsCommand

end Galoy

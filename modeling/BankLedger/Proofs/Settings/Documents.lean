import BankLedger.Proofs.Json.Indented
import BankLedger.Settings.Document

/-!
# Configuration documents that were written

A document is read back from its file, whatever its settings are.  The sections and settings that
are left out are those whose defaults reading fills in, and a plain setting is never taken for a
variable, since the one is a string and the other an object.
-/

namespace BankLedger.Settings

open BankLedger.Json

/-! ## Settings -/

theorem Secret.readsBack_readValue (depth : Nat) (secret : Secret) :
    ReadsBack (readValue (depth + 2)) secret.toJson secret.toJson := by
  match secret with
  | .plain text => exact readsBack_readValue_string (depth + 1) text
  | .variable name =>
      refine readsBack_readValue_object (List.cons_ne_nil _ _) ?_
      intro member held
      rw [List.mem_singleton.mp held]
      exact readsBack_readValue_string depth name

theorem Secret.readsBack (depth : Nat) (secret : Secret) :
    ReadsBack (Secret.read (depth + 2)) secret.toJson secret := by
  intro level gap rest blank follows
  rw [Secret.read, bind_of_taken (secret.readsBack_readValue depth level gap rest blank follows),
    Secret.ofJson?_toJson]
  rfl

theorem Secret.readsBack_readOptional (depth : Nat) (secret : Secret) :
    ReadsBack (readOptional (Secret.read (depth + 2))) secret.toJson (some secret) := by
  apply (secret.readsBack depth).readOptional
  intro level
  match secret with
  | .plain text => exact ⟨'"', _, rfl, rfl, by decide⟩
  | .variable name => exact ⟨'\x7b', _, rfl, rfl, by decide⟩

theorem Vendor.readsBack (depth : Nat) (vendor : Vendor) :
    ReadsBack (Vendor.read depth) (.string vendor.spelling) vendor := by
  intro level gap rest blank follows
  have named : readStringAs "variant identifier" (quote vendor.spelling ++ rest) =
      .ok (vendor.spelling, rest) := takes_readStringAs _ _ [] rest gap_nil follows
  rw [quote_append] at named
  rw [indentedCharacters, quote_append, Vendor.read, readVariant,
    bind_of_taken (peekToken_gap blank rfl)]
  change readVariantName spellings _ = _
  rw [readVariantName, bind_of_taken named]
  cases vendor
  rfl

theorem readsBack_readWord64 (type : String) (value : UInt64) :
    ReadsBack (readWord64 type) (.integer value.toNat) value := by
  have fits : value.toNat ≤ UInt64.size - 1 := Nat.le_sub_one_of_lt value.toNat_lt_size
  have reads := (readsBack_readNatural type fits fits).map UInt64.ofNat
  rwa [UInt64.ofNat_toNat] at reads

/-- A setting that may be missing is read into its field if it is there. -/
theorem fills_optionalMember {Draft : Type} {layout : Layout Draft} {depth : Nat} {name : String}
    {slot : Slot Draft} (filled : Option Secret → Draft) (secret : Option Secret)
    (known : layout.slots.find? (fun slot => slot.name == name) = some slot)
    (vacant : slot.isFilled (filled none) = false)
    (reads : ∀ value : Secret,
      ReadsBack (slot.fill depth (filled none)) value.toJson (filled (some value))) :
    layout.Fills depth (filled none) (optionalMember name secret) (filled secret) := by
  cases secret with
  | none => exact .nil _
  | some value => exact .cons known vacant (reads value) (.nil _)

/-! ## Sections -/

theorem ConnectionSettings.fills (depth : Nat) (settings : ConnectionSettings) :
    connectionLayout.Fills (depth + 2) connectionLayout.blank
      ([("host", settings.host.toJson)] ++ optionalMember "port" settings.port ++
        [("database", settings.database.toJson), ("user", settings.user.toJson)] ++
        optionalMember "password" settings.password ++ optionalMember "role" settings.role)
      ⟨some settings.host, settings.port.map some, some settings.database, some settings.user,
        settings.password.map some, settings.role.map some⟩ := by
  obtain ⟨host, port, database, user, password, role⟩ := settings
  have hostFilled : connectionLayout.Fills (depth + 2) connectionLayout.blank
      [("host", host.toJson)] ⟨some host, none, none, none, none, none⟩ :=
    .cons rfl rfl ((host.readsBack depth).map _) (.nil _)
  have portFilled : connectionLayout.Fills (depth + 2) ⟨some host, none, none, none, none, none⟩
      (optionalMember "port" port) ⟨some host, port.map some, none, none, none, none⟩ :=
    fills_optionalMember (fun port => ConnectionDraft.mk (some host) (port.map some) none none none
      none) port rfl rfl fun value => (value.readsBack_readOptional depth).map _
  have userFilled : connectionLayout.Fills (depth + 2)
      ⟨some host, port.map some, none, none, none, none⟩
      [("database", database.toJson), ("user", user.toJson)]
      ⟨some host, port.map some, some database, some user, none, none⟩ :=
    .cons rfl rfl ((database.readsBack depth).map _)
      (.cons rfl rfl ((user.readsBack depth).map _) (.nil _))
  have passwordFilled : connectionLayout.Fills (depth + 2)
      ⟨some host, port.map some, some database, some user, none, none⟩
      (optionalMember "password" password)
      ⟨some host, port.map some, some database, some user, password.map some, none⟩ :=
    fills_optionalMember (fun password => ConnectionDraft.mk (some host) (port.map some)
      (some database) (some user) (password.map some) none) password rfl rfl fun value =>
        (value.readsBack_readOptional depth).map _
  have roleFilled : connectionLayout.Fills (depth + 2)
      ⟨some host, port.map some, some database, some user, password.map some, none⟩
      (optionalMember "role" role)
      ⟨some host, port.map some, some database, some user, password.map some, role.map some⟩ :=
    fills_optionalMember (fun role => ConnectionDraft.mk (some host) (port.map some)
      (some database) (some user) (password.map some) (role.map some)) role rfl rfl fun value =>
        (value.readsBack_readOptional depth).map _
  exact (((hostFilled.append portFilled).append userFilled).append passwordFilled).append roleFilled

theorem ConnectionSettings.readsBack (depth : Nat) (settings : ConnectionSettings) :
    ReadsBack (ConnectionSettings.read (depth + 3)) settings.toJson settings := by
  have complete : connectionLayout.Complete
      ⟨some settings.host, settings.port.map some, some settings.database, some settings.user,
        settings.password.map some, settings.role.map some⟩ := by
    simp [Layout.Complete, connectionLayout, slot]
  have reads : ReadsBack (connectionLayout.read (depth + 3)) settings.toJson _ :=
    (settings.fills depth).readsBack (by omega) (by simp) complete
  intro level gap rest blank follows
  rw [ConnectionSettings.read, bind_of_taken (reads level gap rest blank follows)]
  obtain ⟨host, port, database, user, password, role⟩ := settings
  cases port <;> cases password <;> cases role <;> rfl

theorem PoolSettings.readsBack (depth : Nat) (settings : PoolSettings) :
    ReadsBack (PoolSettings.read (depth + 2)) settings.toJson settings := by
  obtain ⟨connections, connectTimeout, pollInterval, handshakeTimeout⟩ := settings
  let draft : PoolDraft :=
    ⟨some connections, some connectTimeout, some pollInterval, some handshakeTimeout⟩
  have fills : poolLayout.Fills (depth + 1) poolLayout.blank
      [("connections", .integer connections.toNat),
        ("connectTimeoutMs", .integer connectTimeout.toNat),
        ("pollIntervalMs", .integer pollInterval.toNat),
        ("handshakeTimeoutMs", .integer handshakeTimeout.toNat)] draft :=
    .cons rfl rfl ((readsBack_readWord64 "usize" connections).map _) <|
    .cons rfl rfl ((readsBack_readWord64 "u64" connectTimeout).map _) <|
    .cons rfl rfl ((readsBack_readWord64 "u64" pollInterval).map _) <|
    .cons rfl rfl ((readsBack_readWord64 "u64" handshakeTimeout).map _) <|
    .nil draft
  have complete : poolLayout.Complete draft := by
    simp [Layout.Complete, poolLayout, slot]
  have reads : ReadsBack (poolLayout.read (depth + 2)) _ draft :=
    fills.readsBack (by omega) (List.cons_ne_nil _ _) complete
  intro level gap rest blank follows
  exact bind_of_taken (reads level gap rest blank follows)

theorem LedgerSettings.readsBack (depth : Nat) (settings : LedgerSettings) :
    ReadsBack (LedgerSettings.read (depth + 2)) settings.toJson settings := by
  obtain ⟨maxAccountId, statementLimit⟩ := settings
  let draft : LedgerDraft := ⟨some maxAccountId, some statementLimit⟩
  have fills : ledgerLayout.Fills (depth + 1) ledgerLayout.blank
      [("maxAccountId", .integer maxAccountId.toInt),
        ("statementLimit", .integer statementLimit.toInt)] draft :=
    .cons rfl rfl ((readsBack_readInt64 maxAccountId).map _) <|
    .cons rfl rfl ((readsBack_readInt64 statementLimit).map _) <|
    .nil draft
  have complete : ledgerLayout.Complete draft := by
    simp [Layout.Complete, ledgerLayout, slot]
  have reads : ReadsBack (ledgerLayout.read (depth + 2)) _ draft :=
    fills.readsBack (by omega) (List.cons_ne_nil _ _) complete
  intro level gap rest blank follows
  exact bind_of_taken (reads level gap rest blank follows)

/-! ## Documents -/

section

variable {Value : Type} [DecidableEq Value] (value standard : Value)

/-- A section that is left out if it has its default fills its field otherwise. -/
theorem fills_unlessStandard {Draft : Type} {layout : Layout Draft} {depth : Nat} {name : String}
    {slot : Slot Draft} (filled : Option Value → Draft) {json : Json}
    (known : layout.slots.find? (fun slot => slot.name == name) = some slot)
    (vacant : slot.isFilled (filled none) = false)
    (reads : ReadsBack (slot.fill depth (filled none)) json (filled (some value))) :
    layout.Fills depth (filled none) (if value = standard then [] else [(name, json)])
      (filled (if value = standard then none else some value)) := by
  split
  case isTrue => exact .nil _
  case isFalse => exact .cons known vacant reads (.nil _)

theorem getD_unlessStandard :
    (if value = standard then none else some value).getD standard = value := by
  split
  case isTrue same => exact same.symm
  case isFalse => rfl

end

theorem readsBack_readVersion (version : UInt32) :
    ReadsBack (do return UInt32.ofNat (← readNatural "u32" (UInt32.size - 1)))
      (.integer version.toNat) version := by
  have small := version.toNat_lt
  have fits : version.toNat ≤ UInt32.size - 1 := Nat.le_sub_one_of_lt small
  have word : version.toNat ≤ wordLimit := by
    rw [wordLimit, UInt64.size]
    omega
  have reads := (readsBack_readNatural "u32" fits word).map UInt32.ofNat
  rwa [UInt32.ofNat_toNat] at reads

/-- The members of a document fill its sections, apart from those that have their default. -/
theorem Document.fills (depth : Nat) (document : Document) :
    documentLayout.Fills (depth + 3) documentLayout.blank
      ([("version", .integer document.version.toNat),
          ("vendor", .string document.vendor.spelling),
          ("connection", document.connection.toJson)] ++
        (if document.pool = .standard then [] else [("poolSettings", document.pool.toJson)]) ++
        (if document.ledger = .standard then [] else [("ledger", document.ledger.toJson)]))
      ⟨some document.version, some document.vendor, some document.connection,
        if document.pool = .standard then none else some document.pool,
        if document.ledger = .standard then none else some document.ledger⟩ := by
  obtain ⟨version, vendor, connection, pool, ledger⟩ := document
  let pool? := if pool = .standard then none else some pool
  have first : documentLayout.Fills (depth + 3) documentLayout.blank
      [("version", .integer version.toNat), ("vendor", .string vendor.spelling),
        ("connection", connection.toJson)]
      ⟨some version, some vendor, some connection, none, none⟩ :=
    .cons rfl rfl ((readsBack_readVersion version).map _) <|
    .cons rfl rfl ((vendor.readsBack (depth + 3)).map _) <|
    .cons rfl rfl ((connection.readsBack depth).map _) <|
    .nil _
  have poolFilled : documentLayout.Fills (depth + 3)
      ⟨some version, some vendor, some connection, none, none⟩
      (if pool = .standard then [] else [("poolSettings", pool.toJson)])
      ⟨some version, some vendor, some connection, pool?, none⟩ :=
    fills_unlessStandard pool .standard
      (fun pool => DocumentDraft.mk (some version) (some vendor) (some connection) pool none)
      rfl rfl ((pool.readsBack (depth + 1)).map _)
  have ledgerFilled : documentLayout.Fills (depth + 3)
      ⟨some version, some vendor, some connection, pool?, none⟩
      (if ledger = .standard then [] else [("ledger", ledger.toJson)])
      ⟨some version, some vendor, some connection, pool?,
        if ledger = .standard then none else some ledger⟩ :=
    fills_unlessStandard ledger .standard
      (fun ledger => DocumentDraft.mk (some version) (some vendor) (some connection) pool? ledger)
      rfl rfl ((ledger.readsBack (depth + 1)).map _)
  exact (first.append poolFilled).append ledgerFilled

theorem Document.readsBack (depth : Nat) (document : Document) :
    ReadsBack (Document.read (depth + 4)) document.toJson document := by
  have complete : documentLayout.Complete
      ⟨some document.version, some document.vendor, some document.connection,
        if document.pool = .standard then none else some document.pool,
        if document.ledger = .standard then none else some document.ledger⟩ := by
    simp [Layout.Complete, documentLayout, slot]
  have reads : ReadsBack (documentLayout.read (depth + 4)) document.toJson _ :=
    (document.fills depth).readsBack (by omega) (by simp) complete
  intro level gap rest blank follows
  rw [Document.read, bind_of_taken (reads level gap rest blank follows)]
  obtain ⟨version, vendor, connection, pool, ledger⟩ := document
  dsimp only
  rw [getD_unlessStandard pool, getD_unlessStandard ledger]
  rfl

theorem Document.ofText_text (path : String) (document : Document)
    (current : document.version = currentVersion) :
    Document.ofText path document.text = .ok document := by
  have reads : readWhole (Document.read fullDepth) document.text.toList = .ok document :=
    (document.readsBack 124).readWhole
  rw [Document.ofText, reads]
  exact if_pos current

end BankLedger.Settings

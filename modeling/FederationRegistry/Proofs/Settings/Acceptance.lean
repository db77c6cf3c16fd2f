import FederationRegistry.Proofs.Dict
import FederationRegistry.Proofs.Relational.Opening
import FederationRegistry.Proofs.Validity
import FederationRegistry.Settings

/-!
# What accepted settings are good for

Settings are accepted for their path and for the number of connections that read. The waiting time
is not looked at, and the engine takes 31 bits of it where a document has 64.

**Theorem (`accepted_settings_run`).** Of all settings that are accepted, by themselves or in a
document, those stop the program that wait longer than the engine can, as soon as a database is
opened with them, and no others. A store that opens serves any number of reads, each from a place
inside its pool, also when the count of reads has wrapped around.

The check does not say all that opening needs: a document whose waiting time is one millisecond too
long is accepted and stops the program (`accepted_settings_stop`).
-/

namespace FederationRegistry

/-! ## Reads, one after the other -/

namespace ReadPool

variable {p : ReadPool}

/-- The places that serve so many reads, if every one of them is served. -/
def serve? (p : ReadPool) : Nat → Option (List Nat)
  | 0 => some []
  | n + 1 =>
    match p.next? with
    | none => none
    | some (place, rest) => (rest.serve? n).map (place :: ·)

theorem next?_eq_some_iff {place : Nat} {rest : ReadPool} :
    p.next? = some (place, rest) ↔
      0 < p.size ∧ place = p.reads.toNat % p.size ∧ rest = { p with reads := p.reads + 1 } := by
  unfold next?
  by_cases hempty : p.size = 0
  · simp [hempty]
  · simp [hempty, Nat.pos_of_ne_zero hempty, eq_comm]

/-- No read is served from outside the pool. -/
theorem lt_size_of_serve? {n : Nat} {places : List Nat} (h : p.serve? n = some places) :
    ∀ place ∈ places, place < p.size := by
  induction n generalizing p places with
  | zero =>
    cases h
    simp
  | succ n ih =>
    rw [serve?] at h
    split at h
    · cases h
    · next first rest hnext =>
      obtain ⟨hpos, rfl, rfl⟩ := next?_eq_some_iff.mp hnext
      obtain ⟨others, hothers, rfl⟩ := Option.map_eq_some_iff.mp h
      intro place hplace
      rcases List.mem_cons.mp hplace with rfl | hplace
      · exact Nat.mod_lt _ hpos
      · exact ih hothers place hplace

/-- A pool with connections serves every read, in turn, by the count of reads in 64 bits. -/
theorem serve?_of_pos (h : 0 < p.size) (n : Nat) :
    p.serve? n =
      some ((List.range n).map fun k => (p.reads.toNat + k) % Word.unsignedLimit % p.size) := by
  induction n generalizing p with
  | zero => rfl
  | succ n ih =>
    have hrest := ih (p := { p with reads := p.reads + 1 }) h
    have hcount (k : Nat) : ((p.reads + 1).toNat + k) % Word.unsignedLimit =
        (p.reads.toNat + (k + 1)) % Word.unsignedLimit := by
      rw [UInt64.toNat_add, UInt64.toNat_one, Word.unsignedLimit]
      omega
    have hfirst : (p.reads.toNat + 0) % Word.unsignedLimit = p.reads.toNat :=
      Nat.mod_eq_of_lt p.reads.toNat_lt
    simp only [hcount] at hrest
    rw [serve?, next?_eq_some_iff.mpr ⟨h, rfl, rfl⟩]
    dsimp only
    rw [hrest, Option.map_some, List.range_succ_eq_map, List.map_cons, List.map_map, hfirst]
    rfl

end ReadPool

/-! ## Opening -/

namespace StoreSettings

variable {s : StoreSettings} {files : Files} {db : Database}

theorem readPoolSize_pos_of_validate {isDirectory : String → Bool}
    (h : s.validate isDirectory = .ok ()) : 0 < s.readPoolSize := by
  unfold validate at h
  split at h
  · cases h
  · rename_i hsize
    exact Nat.pos_of_ne_zero hsize

/-- Accepted settings stop the program when there is a database to open and the engine cannot wait
as long as they say. -/
theorem connect_eq_stopped_iff (hvalid : s.validate files.isDirectory = .ok ()) :
    s.connect files db = .error .stopped ↔
      (Location.find? files s.journalMode s.path).isSome = true ∧
        maxBusyTimeoutMs < s.busyTimeoutMs := by
  cases hlocation : Location.find? files s.journalMode s.path with
  | none => simp [connect_of_no_location hvalid hlocation]
  | some location =>
    rw [connect_of_location hvalid hlocation]
    by_cases hlong : maxBusyTimeoutMs < s.busyTimeoutMs
    · simp [hlong]
    · cases db.prepare.1 <;> simp [hlong, Except.map]

/-- What opening and reading come to. -/
structure Runs (s : StoreSettings) (files : Files) : Prop where
  /-- Too long a waiting time stops the program, and nothing else does. -/
  stops : ∀ db, s.connect files db = .error .stopped ↔
    (Location.find? files s.journalMode s.path).isSome = true ∧ maxBusyTimeoutMs < s.busyTimeoutMs
  /-- Any number of reads is served, each by the connection whose turn it is, and from inside the
  pool. -/
  serves : ∀ db store, s.connect files db = .ok store → ∀ n, ∃ places,
    store.readers.serve? n = some places ∧
      places = (List.range n).map (fun k => k % Word.unsignedLimit % s.readPoolSize) ∧
      ∀ place ∈ places, place < store.readers.size

theorem runs_of_validate (hvalid : s.validate files.isDirectory = .ok ()) : s.Runs files where
  stops _ := connect_eq_stopped_iff hvalid
  serves db store h n := by
    obtain ⟨-, location, -, -, -, rfl⟩ := connect_eq_ok_iff.mp h
    have hserved := ReadPool.serve?_of_pos (p := { size := s.readPoolSize })
      (readPoolSize_pos_of_validate hvalid) n
    simp only [UInt64.toNat_zero, Nat.zero_add] at hserved
    exact ⟨_, hserved, rfl, ReadPool.lt_size_of_serve? hserved⟩

end StoreSettings

/-! ## Documents -/

namespace RegistrySettings

variable {isDirectory : String → Bool} {s : RegistrySettings}

/-- A document gives settings when it is small enough, text, and TOML with the shape of settings,
and when they are valid. -/
theorem ofBytes_eq_ok_iff {bytes : ByteArray} :
    ofBytes isDirectory bytes = .ok s ↔
      bytes.size ≤ maxSize ∧ ∃ text, String.fromUTF8? bytes = some text ∧
        ofToml? text = some s ∧ s.validate isDirectory = .ok () := by
  -- the checks come one behind the other: size, encoding, syntax, then the values
  by_cases hsize : maxSize < bytes.size
  · simp [ofBytes, hsize, Nat.not_le.mpr hsize, bind, Except.bind, throw, throwThe,
      MonadExceptOf.throw]
  · simp only [ofBytes, if_neg hsize, Nat.not_lt.mp hsize, true_and]
    cases String.fromUTF8? bytes with
    | none => simp [throw, throwThe, MonadExceptOf.throw]
    | some text =>
      cases hsettings : ofToml? text with
      | none => simp [hsettings, throw, throwThe, MonadExceptOf.throw]
      | some settings =>
        simp only [hsettings, except_bind_eq_ok_iff, mapError_eq_ok_iff, pure, Except.pure,
          Except.ok.injEq, Option.some.injEq, exists_eq_left']
        constructor
        · rintro ⟨_, hvalid, rfl⟩
          exact ⟨rfl, hvalid⟩
        · rintro ⟨rfl, hvalid⟩
          exact ⟨_, hvalid, rfl⟩

theorem validate_store_of_ofBytes {bytes : ByteArray} (h : ofBytes isDirectory bytes = .ok s) :
    s.store.validate isDirectory = .ok () := by
  obtain ⟨-, text, -, -, hvalid⟩ := ofBytes_eq_ok_iff.mp h
  obtain ⟨_, hstore, -⟩ := except_bind_eq_ok_iff.mp hvalid
  exact (mapError_eq_ok_iff _).mp hstore

end RegistrySettings

/-- **What accepted settings are good for.** Settings that are accepted, and those of the store in
a document that is accepted, stop the program exactly when they wait longer than the engine can,
and what opens with them serves any number of reads from places inside its pool. -/
theorem accepted_settings_run (files : Files) :
    (∀ s : StoreSettings, s.validate files.isDirectory = .ok () → s.Runs files) ∧
    (∀ (bytes : ByteArray) (s : RegistrySettings),
      RegistrySettings.ofBytes files.isDirectory bytes = .ok s → s.store.Runs files) :=
  ⟨fun _ hvalid => StoreSettings.runs_of_validate hvalid,
    fun _ _ h => StoreSettings.runs_of_validate (RegistrySettings.validate_store_of_ofBytes h)⟩

/-- A document whose waiting time is one millisecond longer than the engine can wait. -/
def longWaitDocument : String :=
  "[store]\npath = \"registry.db\"\nbusy_timeout_ms = 2147483648\n"

/-- The settings in it. -/
def longWaitSettings : RegistrySettings where
  store := { path := "registry.db", busyTimeoutMs := 2147483648 }

theorem ofBytes_longWaitDocument :
    RegistrySettings.ofBytes Files.emptyDirectory.isDirectory longWaitDocument.toUTF8 =
      .ok longWaitSettings := by
  decide +kernel

/-- Settings that are accepted, by themselves and in a document, stop the program when a new
database is opened with them. -/
theorem accepted_settings_stop :
    longWaitSettings.store.validate Files.emptyDirectory.isDirectory = .ok () ∧
      RegistrySettings.ofBytes Files.emptyDirectory.isDirectory longWaitDocument.toUTF8 =
        .ok longWaitSettings ∧
      longWaitSettings.store.connect .emptyDirectory {} = .error .stopped := by
  have hvalid : longWaitSettings.store.validate Files.emptyDirectory.isDirectory = .ok () :=
    RegistrySettings.validate_store_of_ofBytes ofBytes_longWaitDocument
  exact ⟨hvalid, ofBytes_longWaitDocument,
    (StoreSettings.connect_eq_stopped_iff hvalid).mpr (by decide +kernel)⟩

/-- With the longest time that the engine can wait a store opens, and its four connections read in
turn. -/
theorem accepted_settings_run_longestWait :
    (StoreSettings.validate Files.emptyDirectory.isDirectory
        { path := "registry.db", busyTimeoutMs := 2147483647 } = .ok ()) ∧
      ∃ store, StoreSettings.connect { path := "registry.db", busyTimeoutMs := 2147483647 }
          .emptyDirectory {} = .ok store ∧
        store.readers.serve? 6 = some [0, 1, 2, 3, 0, 1] := by
  have hvalid : StoreSettings.validate Files.emptyDirectory.isDirectory
      { path := "registry.db", busyTimeoutMs := 2147483647 } = .ok () := by decide +kernel
  have hruns := (accepted_settings_run .emptyDirectory).1 _ hvalid
  have hlocation : Location.find? .emptyDirectory .wal "registry.db" =
      some (.file (.ofPath "registry.db")) := by decide +kernel
  have hopens := StoreSettings.connect_of_location hvalid hlocation {}
  obtain ⟨places, hserved, rfl, -⟩ := hruns.serves {} _ hopens 6
  exact ⟨hvalid, _, hopens, hserved⟩

end FederationRegistry

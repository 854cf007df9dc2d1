import CircleStdlib.Certificates

/-!
`CTLSSimpleClientSocket`: the flag `m_bCertAdded` beside the chain, and what `Setup` makes of
it. A call that adds certificates sees its own file system and its own parser; the results of
the other mbedtls functions in `Setup` are inputs.
-/

namespace CircleStdlib.ServerVerification

open Certificates

inductive AuthMode where
  | verifyNone
  | verifyRequired
  deriving DecidableEq, Repr

/-- `CTLSConfig`, as far as the server's certificate is concerned. -/
structure TlsConfig where
  authMode : AuthMode
  certProfile : Bool
  caChain : Bool
  deriving DecidableEq, Repr

-- `mbedtls_ssl_config_defaults` for a client.
def TlsConfig.setDefaults (config : TlsConfig) : TlsConfig :=
  { config with authMode := .verifyRequired }

structure ClientSocket where
  certChain : Nat
  certAdded : Bool
  tlsConfig : TlsConfig
  deriving DecidableEq, Repr

def ClientSocket.create : ClientSocket := ⟨0, false, ⟨.verifyNone, false, false⟩⟩

variable {Directory : Type}

inductive Call (Directory : Type) where
  | addCertificate (parse : Parser) (buffer : List UInt8)
  | addCertificateFile (files : FileSystem Directory) (parse : Parser) (filename : List UInt8)
  | addCertificatePath (files : FileSystem Directory) (parse : Nat → Parser)
      (path : List UInt8)

namespace ClientSocket

def addCertificate (socket : ClientSocket) (parse : Parser) (buffer : List UInt8) :
    Int × ClientSocket :=
  let parsed := parse buffer
  let chained := { socket with certChain := socket.certChain + parsed.added }
  if parsed.result ≠ 0 then (parsed.result, chained)
  else (0, { chained with certAdded := true })

def addCertificateFile (socket : ClientSocket) (files : FileSystem Directory) (parse : Parser)
    (filename : List UInt8) : Int × ClientSocket :=
  let file := files.addCertificateFile parse filename
  let chained := { socket with certChain := socket.certChain + file.certificates }
  if file.result ≠ 0 then (file.result, chained)
  else (0, { chained with certAdded := true })

def addCertificatePath (socket : ClientSocket) (files : FileSystem Directory)
    (parse : Nat → Parser) (path : List UInt8) : Int × ClientSocket :=
  let scanned := files.addCertificatePath parse path
  let chained := { socket with certChain := socket.certChain + scanned.certificates }
  if scanned.result ≤ 0 then (scanned.result, chained)
  else (scanned.result, { chained with certAdded := true })

def call (socket : ClientSocket) : Call Directory → ClientSocket
  | .addCertificate parse buffer => (socket.addCertificate parse buffer).2
  | .addCertificateFile files parse filename =>
      (socket.addCertificateFile files parse filename).2
  | .addCertificatePath files parse path => (socket.addCertificatePath files parse path).2

structure SetupResults where
  seed : Int
  setDefaults : Int
  setup : Int
  setHostname : Int

def setup (socket : ClientSocket) (results : SetupResults) : Int × ClientSocket :=
  if results.seed ≠ 0 then (results.seed, socket)
  else
    let defaults := { socket with tlsConfig := socket.tlsConfig.setDefaults }
    if results.setDefaults ≠ 0 then (results.setDefaults, defaults)
    else
      let configured :=
        if socket.certAdded then { socket with tlsConfig := ⟨.verifyRequired, true, true⟩ }
        else { defaults with tlsConfig := { defaults.tlsConfig with authMode := .verifyNone } }
      if results.setup ≠ 0 then (results.setup, configured)
      else (results.setHostname, configured)

end ClientSocket

def Call.Adds : Call Directory → Prop
  | .addCertificate parse buffer => 0 ≤ (parse buffer).result
  | .addCertificateFile files parse filename =>
      ∃ directory name content buffer, files.fopen filename = some (directory, name, content) ∧
        certificateBuffer content = .ok buffer ∧ 0 ≤ (parse buffer).result
  | .addCertificatePath files parse path =>
      ∃ directory name later, files.opendir path = some directory ∧
        files.wantedNames directory = name :: later ∧
        files.Usable (parse 0) files.workingDirectory name

-- The call succeeds in full: every entry of the certificate is parsed, or the scan goes to
-- its end and has found a file.
def Call.Succeeds : Call Directory → Prop
  | .addCertificate parse buffer => (parse buffer).result = 0
  | .addCertificateFile files parse filename =>
      ∃ directory name content buffer, files.fopen filename = some (directory, name, content) ∧
        certificateBuffer content = .ok buffer ∧ (parse buffer).result = 0
  | .addCertificatePath files parse path =>
      ∃ directory, files.opendir path = some directory ∧ files.wantedNames directory ≠ [] ∧
        files.AllUsable parse (files.wantedNames directory) 0

theorem parsed_adds (parsed : Parsed) : 0 < parsed.added ↔ 0 ≤ parsed.result := by
  have documented := parsed.documented
  omega

-- the two ways in which `AddCertificateFile` can end
theorem addCertificateFile_cases (files : FileSystem Directory) (parse : Parser)
    (filename : List UInt8) :
    (∃ directory name content buffer, files.fopen filename = some (directory, name, content) ∧
      certificateBuffer content = .ok buffer ∧
      (files.addCertificateFile parse filename).result = (parse buffer).result ∧
      (files.addCertificateFile parse filename).certificates = (parse buffer).added) ∨
    ((files.addCertificateFile parse filename).result < 0 ∧
      (files.addCertificateFile parse filename).certificates = 0 ∧
      ∀ directory name content buffer, files.fopen filename = some (directory, name, content) →
        certificateBuffer content ≠ .ok buffer) := by
  unfold FileSystem.addCertificateFile
  cases files.fopen filename with
  | none => exact .inr ⟨io_negative, rfl, fun _ _ _ _ found => by cases found⟩
  | some file =>
      obtain ⟨directory, name, content⟩ := file
      dsimp only
      cases checked : certificateBuffer content with
      | error code =>
          refine .inr ⟨certificateBuffer_error content code checked, rfl, ?_⟩
          rintro _ _ _ _ ⟨⟩ fine
          rw [checked] at fine
          cases fine
      | ok buffer => exact .inl ⟨directory, name, content, buffer, rfl, checked, rfl, rfl⟩

/-- What does not hold of a failure without certificates holds of a call exactly when it
holds of what the parser makes of the file. -/
theorem addCertificateFile_iff (files : FileSystem Directory) (parse : Parser)
    (filename : List UInt8) (property : Int → Nat → Prop)
    (failure : ∀ result, result < 0 → ¬ property result 0) :
    property (files.addCertificateFile parse filename).result
        (files.addCertificateFile parse filename).certificates ↔
      ∃ directory name content buffer, files.fopen filename = some (directory, name, content) ∧
        certificateBuffer content = .ok buffer ∧
        property (parse buffer).result (parse buffer).added := by
  rcases addCertificateFile_cases files parse filename with
    ⟨directory, name, content, buffer, found, fine, result, added⟩ | ⟨negative, nothing, refused⟩
  · rw [result, added]
    constructor
    · exact fun holds => ⟨directory, name, content, buffer, found, fine, holds⟩
    · rintro ⟨_, _, _, _, same, other, holds⟩
      cases found.symm.trans same
      cases fine.symm.trans other
      exact holds
  · rw [nothing]
    constructor
    · exact fun holds => absurd holds (failure _ negative)
    · rintro ⟨_, _, _, _, same, fine, -⟩
      exact absurd fine (refused _ _ _ _ same)

theorem addCertificateFile_chain (files : FileSystem Directory) (parse : Parser)
    (filename : List UInt8) :
    0 < (files.addCertificateFile parse filename).certificates ↔
      (Call.addCertificateFile files parse filename).Adds := by
  have holds := addCertificateFile_iff files parse filename (fun _ added => 0 < added)
    (fun _ _ => Nat.lt_irrefl 0)
  simp only [parsed_adds] at holds
  exact holds

theorem addCertificateFile_success (files : FileSystem Directory) (parse : Parser)
    (filename : List UInt8) :
    (files.addCertificateFile parse filename).result = 0 ↔
      (Call.addCertificateFile files parse filename).Succeeds :=
  addCertificateFile_iff files parse filename (fun result _ => result = 0)
    (fun _ negative => Int.ne_of_lt negative)

theorem addCertificatePath_chain (files : FileSystem Directory) (parse : Nat → Parser)
    (path : List UInt8) :
    0 < (files.addCertificatePath parse path).certificates ↔
      (Call.addCertificatePath files parse path).Adds := by
  simp only [Call.Adds]
  cases opened : files.opendir path with
  | none => simp [FileSystem.addCertificatePath, opened]
  | some directory =>
      rw [files.addCertificatePath_opened path directory opened, files.scan_certificates]
      constructor
      · rintro ⟨name, later, names, usable⟩
        exact ⟨directory, name, later, rfl, names, usable⟩
      · rintro ⟨_, name, later, ⟨⟩, names, usable⟩
        exact ⟨name, later, names, usable⟩

-- a scan that finds no file returns 0, and one that is aborted an error
theorem addCertificatePath_success (files : FileSystem Directory) (parse : Nat → Parser)
    (path : List UInt8) :
    0 < (files.addCertificatePath parse path).result ↔
      (Call.addCertificatePath files parse path).Succeeds := by
  simp only [Call.Succeeds]
  cases opened : files.opendir path with
  | none =>
      have negative := io_negative
      simp only [FileSystem.addCertificatePath, opened, reduceCtorEq, false_and, exists_false,
        iff_false]
      omega
  | some directory =>
      rw [files.addCertificatePath_opened path directory opened]
      simp only [Option.some.injEq, exists_eq_left']
      by_cases usable : files.AllUsable parse (files.wantedNames directory) 0
      · have result := (files.scan_complete parse (files.readdir directory) 0 usable).1
        have length : 0 < (files.wantedNames directory).length ↔
            files.wantedNames directory ≠ [] := List.length_pos_iff
        rw [← length, result]
        simp only [usable, and_true]
        unfold FileSystem.wantedNames
        omega
      · have negative := files.scan_aborted parse (files.readdir directory) 0 usable
        simp only [usable, and_false, iff_false]
        omega

theorem succeeds_adds (call : Call Directory) (succeeds : call.Succeeds) : call.Adds := by
  cases call with
  | addCertificate parse buffer => exact Int.le_of_eq (Eq.symm succeeds)
  | addCertificateFile files parse filename =>
      obtain ⟨directory, name, content, buffer, found, fine, zero⟩ := succeeds
      exact ⟨directory, name, content, buffer, found, fine, Int.le_of_eq zero.symm⟩
  | addCertificatePath files parse path =>
      obtain ⟨directory, opened, some, usable⟩ := succeeds
      cases names : files.wantedNames directory with
      | nil => exact absurd names some
      | cons name later =>
          rw [names] at usable
          exact ⟨directory, name, later, opened, names, usable.1⟩

namespace ClientSocket

theorem call_chain (socket : ClientSocket) (call : Call Directory) :
    0 < (socket.call call).certChain ↔ 0 < socket.certChain ∨ call.Adds := by
  cases call with
  | addCertificate parse buffer =>
      have adds := parsed_adds (parse buffer)
      simp only [ClientSocket.call, addCertificate, Call.Adds]
      rw [← adds]
      split <;> simp only [Nat.add_pos_iff_pos_or_pos]
  | addCertificateFile files parse filename =>
      simp only [ClientSocket.call, addCertificateFile]
      rw [← addCertificateFile_chain]
      split <;> simp only [Nat.add_pos_iff_pos_or_pos]
  | addCertificatePath files parse path =>
      simp only [ClientSocket.call, addCertificatePath]
      rw [← addCertificatePath_chain]
      split <;> simp only [Nat.add_pos_iff_pos_or_pos]

theorem call_flag (socket : ClientSocket) (call : Call Directory) :
    (socket.call call).certAdded = true ↔ socket.certAdded = true ∨ call.Succeeds := by
  cases call with
  | addCertificate parse buffer =>
      simp only [ClientSocket.call, addCertificate, Call.Succeeds]
      split <;> simp_all
  | addCertificateFile files parse filename =>
      simp only [ClientSocket.call, addCertificateFile]
      rw [← addCertificateFile_success]
      split <;> simp_all
  | addCertificatePath files parse path =>
      simp only [ClientSocket.call, addCertificatePath]
      rw [← addCertificatePath_success]
      split
      case isTrue none =>
        have nothing : ¬ 0 < (files.addCertificatePath parse path).result := by omega
        simp only [nothing, or_false]
      case isFalse some =>
        have found : 0 < (files.addCertificatePath parse path).result := by omega
        simp only [found, or_true]

theorem calls_chain (calls : List (Call Directory)) (socket : ClientSocket) :
    0 < (calls.foldl ClientSocket.call socket).certChain ↔
      0 < socket.certChain ∨ ∃ call ∈ calls, call.Adds := by
  induction calls generalizing socket with
  | nil => simp
  | cons call later ih => simp [ih, call_chain, or_assoc]

theorem calls_flag (calls : List (Call Directory)) (socket : ClientSocket) :
    (calls.foldl ClientSocket.call socket).certAdded = true ↔
      socket.certAdded = true ∨ ∃ call ∈ calls, call.Succeeds := by
  induction calls generalizing socket with
  | nil => simp
  | cons call later ih => simp [ih, call_flag, or_assoc]

theorem setup_mode (socket : ClientSocket) (results : SetupResults)
    (success : (socket.setup results).1 = 0) :
    ((socket.setup results).2.tlsConfig.authMode = .verifyRequired ∧
        (socket.setup results).2.tlsConfig.caChain = true ↔ socket.certAdded = true) ∧
      (socket.setup results).2.certChain = socket.certChain := by
  unfold setup at success ⊢
  split at success
  case isTrue failed => exact absurd success failed
  case isFalse seeded =>
    rw [if_neg seeded]
    dsimp only at success ⊢
    split at success
    case isTrue failed => exact absurd success failed
    case isFalse configured =>
      rw [if_neg configured]
      cases socket.certAdded <;> split <;> simp

def VerifiesServer (socket : ClientSocket) : Prop :=
  socket.tlsConfig.authMode = .verifyRequired ∧ socket.tlsConfig.caChain = true ↔
    0 < socket.certChain

/-- For every sequence of calls and every successful `Setup` after it: the server is verified
exactly when there is a certificate in the chain, if and only if no call has added one or at
least one call has succeeded in full. -/
theorem verifiesServer_iff (calls : List (Call Directory)) (results : SetupResults)
    (success : ((calls.foldl ClientSocket.call create).setup results).1 = 0) :
    ((calls.foldl ClientSocket.call create).setup results).2.VerifiesServer ↔
      (∀ call ∈ calls, ¬ call.Adds) ∨ ∃ call ∈ calls, call.Succeeds := by
  obtain ⟨mode, chain⟩ := setup_mode _ results success
  have flag := calls_flag calls create
  have length := calls_chain calls create
  simp only [create, Bool.false_eq_true, false_or, Nat.lt_irrefl] at flag length
  unfold VerifiesServer
  rw [mode, chain]
  simp only [create, flag, length]
  constructor
  · intro same
    by_cases adds : ∃ call ∈ calls, call.Adds
    · exact .inr (same.mpr adds)
    · exact .inl fun call present added => adds ⟨call, present, added⟩
  · intro condition
    constructor
    · rintro ⟨call, present, succeeds⟩
      exact ⟨call, present, succeeds_adds call succeeds⟩
    · rintro ⟨call, present, adds⟩
      rcases condition with none | success
      · exact absurd adds (none call present)
      · exact success

def succeeding : SetupResults := ⟨0, 0, 0, 0⟩

def oneCertificate (parse : Parser) : List (Call Unit) := [.addCertificate parse [48]]

theorem parsed_verifies :
    (((oneCertificate parsesAll).foldl ClientSocket.call create).setup succeeding).1 = 0 ∧
      (((oneCertificate parsesAll).foldl ClientSocket.call create).setup
        succeeding).2.VerifiesServer :=
  ⟨rfl, (verifiesServer_iff (oneCertificate parsesAll) succeeding rfl).mpr
    (.inr ⟨_, List.mem_singleton_self _, rfl⟩)⟩

theorem half_parsed : (0 ≤ (1 : Int) ∧ 0 < 1) ∨ ((1 : Int) < 0 ∧ 1 = 0) := by decide

def parsesHalf : Parser := fun _ => ⟨1, 1, half_parsed⟩

-- the chain has a certificate and the server is not verified
theorem half_unverified :
    (((oneCertificate parsesHalf).foldl ClientSocket.call create).setup succeeding).1 = 0 ∧
      ¬ (((oneCertificate parsesHalf).foldl ClientSocket.call create).setup
        succeeding).2.VerifiesServer := by
  refine ⟨rfl, fun verifies => ?_⟩
  have required := (verifies.mpr (by decide)).1
  exact absurd required (by decide)

end ClientSocket

end CircleStdlib.ServerVerification

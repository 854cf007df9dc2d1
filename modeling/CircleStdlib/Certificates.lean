import CircleStdlib.CText
import Mathlib.Data.List.Infix
import Mathlib.Data.List.Nodup

/-!
`CX509CertificateChain` and the certificates of `CTLSSimpleClientSocket`. The file system is a
parameter: what `opendir` resolves, what `readdir` lists and what a file of a directory
contains. So is `mbedtls_x509_crt_parse`; what it does is known from its documentation. The
chain is the number of its certificates.
-/

namespace CircleStdlib.Certificates

open CText

def certificateMaxSize : Nat := 5000

def errPkFileIoError : Int := -0x3E00

def errX509BufferTooSmall : Int := -0x2980

/-- The result of `mbedtls_x509_crt_parse` and the number of certificates that it has added:
the number of failed entries when one has been parsed, otherwise an error code. -/
structure Parsed where
  result : Int
  added : Nat
  documented : (0 ≤ result ∧ 0 < added) ∨ (result < 0 ∧ added = 0)

abbrev Parser := List UInt8 → Parsed

def slash : UInt8 := 47

@[ext] structure Name where
  chars : List UInt8
  bare : slash ∉ chars

structure FileSystem (Directory : Type) where
  workingDirectory : Directory
  opendir : List UInt8 → Option Directory
  readdir : Directory → List Name
  distinct : ∀ directory, (readdir directory).Nodup
  content : Directory → List UInt8 → Option (List UInt8)

variable {Directory : Type}

-- The file that `fopen` finds: behind the last slash is its name, and before it the
-- directory. Without a slash that is the working directory.
def FileSystem.fopen (files : FileSystem Directory) (path : List UInt8) :
    Option (Directory × List UInt8 × List UInt8) :=
  let name := (path.reverse.takeWhile (· ≠ slash)).reverse
  let parent := (path.reverse.dropWhile (· ≠ slash)).reverse
  let directory := if parent = [] then some files.workingDirectory else files.opendir parent
  directory.bind fun directory =>
    (files.content directory name).map fun content => (directory, name, content)

-- The part of `AddCertificateFile` that stands between `fopen` and the parser. A text is
-- handed to the parser with its terminator.
def certificateBuffer (content : List UInt8) : Except Int (List UInt8) :=
  let read := content.take certificateMaxSize
  if read.length = 0 then .error errPkFileIoError
  else if read.length ≥ certificateMaxSize then .error errX509BufferTooSmall
  else if ascii "-----BEGIN " <:+: cstr read then .ok (read ++ [0])
  else .ok read

structure Reading (Directory : Type) where
  directory : Directory
  name : List UInt8
  handed : Option (List UInt8)

structure Added (Directory : Type) where
  result : Int
  certificates : Nat
  readings : List (Reading Directory)

namespace FileSystem

variable (files : FileSystem Directory)

def addCertificateFile (parse : Parser) (filename : List UInt8) : Added Directory :=
  match files.fopen filename with
  | none => ⟨errPkFileIoError, 0, []⟩
  | some (directory, name, content) =>
      match certificateBuffer content with
      | .error code => ⟨code, 0, [⟨directory, name, none⟩]⟩
      | .ok buffer =>
          ⟨(parse buffer).result, (parse buffer).added, [⟨directory, name, some buffer⟩]⟩

def wanted (name : List UInt8) : Bool :=
  if name.length < 5 then false
  else
    let extension := name.drop (name.length - 4)
    extension = ascii ".pem" || extension = ascii ".crt" || extension = ascii ".der"

-- The loop of `AddCertificatePath`; `count` is `nFiles`. The parser may behave differently
-- each time.
def scan (parse : Nat → Parser) : List Name → Nat → Added Directory
  | [], count => ⟨count, 0, []⟩
  | entry :: later, count =>
      if wanted entry.chars then
        let file := files.addCertificateFile (parse count) entry.chars
        if file.result < 0 then file
        else
          let rest := scan parse later (count + 1)
          ⟨rest.result, file.certificates + rest.certificates, file.readings ++ rest.readings⟩
      else scan parse later count

def addCertificatePath (parse : Nat → Parser) (path : List UInt8) : Added Directory :=
  match files.opendir path with
  | none => ⟨errPkFileIoError, 0, []⟩
  | some directory => files.scan parse (files.readdir directory) 0

def wantedOf (entries : List Name) : List (List UInt8) := (entries.map Name.chars).filter wanted

def wantedNames (directory : Directory) : List (List UInt8) :=
  wantedOf (files.readdir directory)

def buffer (directory : Directory) (name : List UInt8) : Option (List UInt8) :=
  (files.content directory name).bind fun content => (certificateBuffer content).toOption

def Usable (parse : Parser) (directory : Directory) (name : List UInt8) : Prop :=
  ∃ buffer, files.buffer directory name = some buffer ∧ 0 ≤ (parse buffer).result

/-- What the scan of a directory is meant to be: the files of this directory with one of the
extensions, each read once and handed to the parser, and an error only for such a file. -/
structure ScansItsFiles (parse : Parser) (path : List UInt8) : Prop where
  succeeded : 0 ≤ (files.addCertificatePath (fun _ => parse) path).result →
    ∃ directory, files.opendir path = some directory ∧
      (files.addCertificatePath (fun _ => parse) path).result =
        (files.wantedNames directory).length ∧
      (files.addCertificatePath (fun _ => parse) path).readings =
        (files.wantedNames directory).map
          (fun name => ⟨directory, name, files.buffer directory name⟩) ∧
      (files.addCertificatePath (fun _ => parse) path).readings.Nodup ∧
      ∀ reading ∈ (files.addCertificatePath (fun _ => parse) path).readings,
        reading.directory = directory ∧ reading.handed.isSome
  failed : (files.addCertificatePath (fun _ => parse) path).result < 0 →
    files.opendir path = none ∨
      ∃ directory, files.opendir path = some directory ∧
        ∃ name ∈ files.wantedNames directory, ¬ files.Usable parse directory name

end FileSystem

theorem io_negative : errPkFileIoError < 0 := by decide

theorem certificateBuffer_error (content : List UInt8) (code : Int)
    (refused : certificateBuffer content = .error code) : code < 0 := by
  unfold certificateBuffer at refused
  dsimp only at refused
  split at refused
  · cases refused
    decide
  · split at refused
    · cases refused
      decide
    · split at refused <;> cases refused

namespace FileSystem

variable (files : FileSystem Directory)

theorem fopen_bare (name : List UInt8) (bare : slash ∉ name) :
    files.fopen name = (files.content files.workingDirectory name).map
      fun content => (files.workingDirectory, name, content) := by
  have all : ∀ char ∈ name.reverse, decide (char ≠ slash) = true := by
    intro char present
    have other : char ≠ slash := by
      rintro rfl
      exact bare (List.mem_reverse.mp present)
    exact decide_eq_true other
  simp only [fopen, List.takeWhile_eq_self_iff.mpr all, List.dropWhile_eq_nil_iff.mpr all,
    List.reverse_reverse, List.reverse_nil, if_true, Option.bind_some]

/-- A name without a slash is read, or refused, as a file of the working directory. -/
theorem addCertificateFile_bare (parse : Parser) (name : List UInt8) (bare : slash ∉ name) :
    (∃ buffer, files.buffer files.workingDirectory name = some buffer ∧
      files.addCertificateFile parse name =
        ⟨(parse buffer).result, (parse buffer).added,
          [⟨files.workingDirectory, name, some buffer⟩]⟩) ∨
    (files.buffer files.workingDirectory name = none ∧
      (files.addCertificateFile parse name).result < 0 ∧
      (files.addCertificateFile parse name).certificates = 0) := by
  unfold addCertificateFile buffer
  rw [files.fopen_bare name bare]
  cases found : files.content files.workingDirectory name with
  | none => exact .inr ⟨rfl, io_negative, rfl⟩
  | some content =>
      simp only [Option.map_some, Option.bind_some]
      cases checked : certificateBuffer content with
      | error code => exact .inr ⟨rfl, certificateBuffer_error content code checked, rfl⟩
      | ok buffer => exact .inl ⟨buffer, rfl, rfl⟩

def AllUsable (parse : Nat → Parser) : List (List UInt8) → Nat → Prop
  | [], _ => True
  | name :: later, count =>
      files.Usable (parse count) files.workingDirectory name ∧ AllUsable parse later (count + 1)

theorem allUsable_constant (parse : Parser) (names : List (List UInt8)) (count : Nat) :
    files.AllUsable (fun _ => parse) names count ↔
      ∀ name ∈ names, files.Usable parse files.workingDirectory name := by
  induction names generalizing count with
  | nil => simp [AllUsable]
  | cons name later ih => simp [AllUsable, ih]

theorem addCertificateFile_usable (parse : Parser) (name : List UInt8) (bare : slash ∉ name) :
    files.Usable parse files.workingDirectory name ↔
      0 ≤ (files.addCertificateFile parse name).result := by
  unfold Usable
  rcases files.addCertificateFile_bare parse name bare with
    ⟨buffer, found, file⟩ | ⟨missing, negative, -⟩
  · simp [found, file]
  · simp only [missing, reduceCtorEq, false_and, exists_false, false_iff]
    omega

theorem addCertificateFile_readings (parse : Parser) (name : List UInt8) (bare : slash ∉ name)
    (usable : files.Usable parse files.workingDirectory name) :
    (files.addCertificateFile parse name).readings =
      [⟨files.workingDirectory, name, files.buffer files.workingDirectory name⟩] := by
  obtain ⟨buffer, found, -⟩ := usable
  rcases files.addCertificateFile_bare parse name bare with
    ⟨other, same, file⟩ | ⟨missing, -, -⟩
  · rw [file, same]
  · rw [missing] at found
    cases found

-- the parser adds a certificate exactly when its result is not negative
theorem addCertificateFile_certificates (parse : Parser) (name : List UInt8)
    (bare : slash ∉ name) :
    0 < (files.addCertificateFile parse name).certificates ↔
      files.Usable parse files.workingDirectory name := by
  rw [files.addCertificateFile_usable parse name bare]
  rcases files.addCertificateFile_bare parse name bare with
    ⟨buffer, found, file⟩ | ⟨missing, negative, nothing⟩
  · rw [file]
    have documented := (parse buffer).documented
    dsimp only
    omega
  · omega

section Scan

variable (parse : Nat → Parser)

theorem wantedOf_wanted (entry : Name) (later : List Name)
    (matching : wanted entry.chars = true) :
    wantedOf (entry :: later) = entry.chars :: wantedOf later := by
  simp [wantedOf, matching]

theorem wantedOf_skipped (entry : Name) (later : List Name)
    (other : ¬ wanted entry.chars = true) : wantedOf (entry :: later) = wantedOf later := by
  simp [wantedOf, other]

/-- A scan that ends has read every matching name, as a file of the working directory. -/
theorem scan_complete (entries : List Name) (count : Nat)
    (usable : files.AllUsable parse (wantedOf entries) count) :
    (files.scan parse entries count).result = count + (wantedOf entries).length ∧
      (files.scan parse entries count).readings = (wantedOf entries).map fun name =>
        ⟨files.workingDirectory, name, files.buffer files.workingDirectory name⟩ := by
  induction entries generalizing count with
  | nil => exact ⟨by simp [scan, wantedOf], rfl⟩
  | cons entry later ih =>
      unfold scan
      split
      case isTrue matching =>
        rw [wantedOf_wanted entry later matching] at usable ⊢
        obtain ⟨result, readings⟩ := ih (count + 1) usable.2
        have positive := (files.addCertificateFile_usable _ _ entry.bare).mp usable.1
        have reading := files.addCertificateFile_readings _ _ entry.bare usable.1
        dsimp only
        rw [if_neg (by omega)]
        constructor
        · rw [result, List.length_cons]
          omega
        · rw [reading, readings, List.map_cons, List.singleton_append]
      case isFalse other =>
        rw [wantedOf_skipped entry later other] at usable ⊢
        exact ih count usable

theorem scan_aborted (entries : List Name) (count : Nat)
    (refused : ¬ files.AllUsable parse (wantedOf entries) count) :
    (files.scan parse entries count).result < 0 := by
  induction entries generalizing count with
  | nil => exact absurd trivial refused
  | cons entry later ih =>
      unfold scan
      split
      case isTrue matching =>
        rw [wantedOf_wanted entry later matching] at refused
        dsimp only
        split
        case isTrue negative => exact negative
        case isFalse positive =>
          apply ih
          intro rest
          exact refused
            ⟨(files.addCertificateFile_usable _ _ entry.bare).mpr (by omega), rest⟩
      case isFalse other =>
        rw [wantedOf_skipped entry later other] at refused
        exact ih count refused

/-- Whatever comes later, the first file decides whether something is added. -/
theorem scan_certificates (entries : List Name) (count : Nat) :
    0 < (files.scan parse entries count).certificates ↔
      ∃ name later, wantedOf entries = name :: later ∧
        files.Usable (parse count) files.workingDirectory name := by
  induction entries with
  | nil => simp [scan, wantedOf]
  | cons entry later ih =>
      unfold scan
      split
      case isTrue matching =>
        rw [wantedOf_wanted entry later matching]
        have first := files.addCertificateFile_certificates (parse count) _ entry.bare
        have sign := files.addCertificateFile_usable (parse count) _ entry.bare
        simp only [List.cons.injEq, exists_and_right]
        constructor
        · intro some
          refine ⟨entry.chars, ⟨wantedOf later, rfl, rfl⟩, ?_⟩
          rw [sign]
          split at some
          · exact sign.mp (first.mp some)
          · omega
        · rintro ⟨name, ⟨rest, rfl, -⟩, usable⟩
          have positive := sign.mp usable
          have added := first.mpr usable
          rw [if_neg (by omega)]
          dsimp only
          omega
      case isFalse other =>
        rw [wantedOf_skipped entry later other]
        exact ih

end Scan

theorem wantedNames_nodup (directory : Directory) : (files.wantedNames directory).Nodup :=
  ((files.distinct directory).map (fun _ _ => Name.ext)).filter _

section Path

variable (parse : Parser) (path : List UInt8) (directory : Directory)
  (opened : files.opendir path = some directory)

include opened

theorem addCertificatePath_opened (parse : Nat → Parser) :
    files.addCertificatePath parse path = files.scan parse (files.readdir directory) 0 := by
  simp [addCertificatePath, opened]

/-- When all is well in the working directory, the scan is right only if it is there. -/
theorem scansItsFiles_usable
    (usable : ∀ name ∈ files.wantedNames directory,
      files.Usable parse files.workingDirectory name) :
    files.ScansItsFiles parse path ↔
      directory = files.workingDirectory ∨ files.wantedNames directory = [] := by
  obtain ⟨result, readings⟩ := files.scan_complete (fun _ => parse)
    (files.readdir directory) 0 ((files.allUsable_constant parse _ 0).mpr usable)
  rw [← files.addCertificatePath_opened path directory opened] at result readings
  constructor
  · intro itsFiles
    obtain ⟨_, same, -, -, -, own⟩ := itsFiles.succeeded (by omega)
    obtain rfl := Option.some.inj (opened.symm.trans same)
    cases names : files.wantedNames directory with
    | nil => exact .inr rfl
    | cons name later =>
        have present : name ∈ wantedOf (files.readdir directory) := by
          rw [show wantedOf (files.readdir directory) = name :: later from names]
          exact List.mem_cons_self
        have first := own ⟨files.workingDirectory, name, _⟩
          (readings ▸ List.mem_map_of_mem present)
        exact .inl first.1.symm
  · intro condition
    have there : files.wantedNames directory ≠ [] → directory = files.workingDirectory :=
      fun names => condition.resolve_right names
    constructor
    · intro _
      have own : (files.addCertificatePath (fun _ => parse) path).readings =
          (files.wantedNames directory).map
            fun name => ⟨directory, name, files.buffer directory name⟩ := by
        rw [readings]
        apply List.map_congr_left
        intro name present
        rw [there (List.ne_nil_of_mem present)]
      refine ⟨directory, opened, by simpa [wantedNames] using result, own, ?_, ?_⟩
      · rw [own]
        refine (files.wantedNames_nodup directory).map fun left right same => ?_
        exact congrArg Reading.name same
      · rw [own]
        intro reading present
        obtain ⟨name, among, rfl⟩ := List.mem_map.mp present
        obtain ⟨buffer, found, -⟩ := usable name among
        rw [← there (List.ne_nil_of_mem among)] at found
        exact ⟨rfl, by simp [found]⟩
    · intro negative
      omega

theorem scansItsFiles_refused
    (refused : ¬ ∀ name ∈ files.wantedNames directory,
      files.Usable parse files.workingDirectory name) :
    files.ScansItsFiles parse path ↔
      ∃ name ∈ files.wantedNames directory, ¬ files.Usable parse directory name := by
  have negative := files.scan_aborted (fun _ => parse) (files.readdir directory) 0
    (fun all => refused ((files.allUsable_constant parse _ 0).mp all))
  rw [← files.addCertificatePath_opened path directory opened] at negative
  constructor
  · intro itsFiles
    rcases itsFiles.failed negative with none | ⟨_, same, bad⟩
    · rw [opened] at none
      cases none
    · obtain rfl := Option.some.inj (opened.symm.trans same)
      exact bad
  · intro bad
    constructor
    · intro positive
      omega
    · exact fun _ => .inr ⟨directory, opened, bad⟩

end Path

theorem scansItsFiles_closed (parse : Parser) (path : List UInt8)
    (closed : files.opendir path = none) : files.ScansItsFiles parse path := by
  have code : (files.addCertificatePath (fun _ => parse) path).result = errPkFileIoError := by
    simp [addCertificatePath, closed]
  constructor
  · intro positive
    rw [code] at positive
    exact absurd positive (by decide)
  · exact fun _ => .inl closed

/-- For every file system, parser and path, the scan is what it is meant to be exactly when
the path cannot be opened, is the working directory or has no certificate files, or when the
names of its certificate files include one without a usable file in the working directory
and one without a usable file in the path. -/
theorem scansItsFiles_iff (parse : Parser) (path : List UInt8) :
    files.ScansItsFiles parse path ↔
      files.opendir path = none ∨
        ∃ directory, files.opendir path = some directory ∧
          (directory = files.workingDirectory ∨ files.wantedNames directory = [] ∨
            (∃ name ∈ files.wantedNames directory,
              ¬ files.Usable parse files.workingDirectory name) ∧
            ∃ name ∈ files.wantedNames directory, ¬ files.Usable parse directory name) := by
  cases opened : files.opendir path with
  | none => simp [files.scansItsFiles_closed parse path opened]
  | some directory =>
      simp only [reduceCtorEq, false_or, Option.some.injEq, exists_eq_left']
      by_cases usable : ∀ name ∈ files.wantedNames directory,
          files.Usable parse files.workingDirectory name
      · rw [files.scansItsFiles_usable parse path directory opened usable]
        have noneRefused : ¬ ∃ name ∈ files.wantedNames directory,
            ¬ files.Usable parse files.workingDirectory name := by
          push Not
          exact usable
        simp only [noneRefused, false_and, or_false]
      · rw [files.scansItsFiles_refused parse path directory opened usable]
        have someRefused : ∃ name ∈ files.wantedNames directory,
            ¬ files.Usable parse files.workingDirectory name := by
          push Not at usable
          exact usable
        constructor
        · exact fun bad => .inr (.inr ⟨someRefused, bad⟩)
        · rintro (rfl | empty | ⟨-, bad⟩)
          · exact someRefused
          · obtain ⟨name, present, -⟩ := someRefused
            rw [empty] at present
            cases present
          · exact bad

end FileSystem

theorem one_parsed : (0 ≤ (0 : Int) ∧ 0 < 1) ∨ ((0 : Int) < 0 ∧ 1 = 0) := by decide

def parsesAll : Parser := fun _ => ⟨0, 1, one_parsed⟩

theorem ca_bare : slash ∉ ascii "ca.pem" := by decide

def caName : Name := ⟨ascii "ca.pem", ca_bare⟩

theorem ca_distinct (directory : Bool) : (if directory then [caName] else []).Nodup := by
  cases directory <;> simp

def separate : FileSystem Bool where
  workingDirectory := false
  opendir := fun path => if path = ascii "/certs" then some true else none
  readdir := fun directory => if directory then [caName] else []
  distinct := ca_distinct
  content := fun directory name =>
    if directory && name = ascii "ca.pem" then some (ascii "-----BEGIN CERTIFICATE-----")
    else none

-- the scan of "/certs" fails although its only file is in order
theorem separate_misread :
    (separate.addCertificatePath (fun _ => parsesAll) (ascii "/certs")).result =
        errPkFileIoError ∧
      ¬ separate.ScansItsFiles parsesAll (ascii "/certs") := by
  have code : (separate.addCertificatePath (fun _ => parsesAll) (ascii "/certs")).result =
      errPkFileIoError := by decide
  refine ⟨code, fun itsFiles => ?_⟩
  rcases itsFiles.failed (by rw [code]; decide) with none | ⟨directory, opened, name, present, bad⟩
  · exact absurd none (by decide)
  · obtain rfl : true = directory := Option.some.inj opened
    obtain rfl : name = ascii "ca.pem" := List.mem_singleton.mp present
    exact bad ⟨ascii "-----BEGIN CERTIFICATE-----" ++ [0], by decide, by decide⟩

end CircleStdlib.Certificates

import MessageTunnel.Proofs.Pem.Sections
import MessageTunnel.Proofs.Storage.Changes
import MessageTunnel.Quic.Certificates
/-!
What is loaded from a certificate file, told by what the file is made of. A file that begins as PEM
gives its certificates in order, and the other sections and the comments among them do not matter;
any other file is one certificate, even where PEM follows behind some lines of text.
-/
set_option autoImplicit false

namespace MessageTunnel.Quic.Certificates

variable {fs : FileSystem} {path : String} {file : Bytes}

theorem load_eq (read : fs.read path = .ok file) : load fs path = ofContent file := by
  rw [load, read]
  rfl

theorem ofContent_raw (notPem : isPem file = false) : ofContent file = .ok [file] := by
  simp [ofContent, notPem, pure, Except.pure]

def among (sections : List Pem.Section) : List Bytes :=
  (sections.filter fun s => s.label = Pem.certificateLabel).map Pem.Section.content

theorem among_append (front back : List Pem.Section) :
    among (front ++ back) = among front ++ among back := by
  simp [among]

theorem ofContent_pem {sections : List Pem.Section} (pem : isPem file = true)
    (read : Pem.sections file = .ok sections) : ofContent file =
      if (among sections).isEmpty then .error ⟨.credentials, "no certificate found in PEM file"⟩
      else .ok (among sections) := by
  simp only [ofContent, pem, Bool.not_true, Bool.false_eq_true, if_false, read]
  show (if (among sections).isEmpty then _ else _) = _
  split <;> rfl

theorem isPem_append (pem : isPem file = true) (rest : Bytes) : isPem (file ++ rest) = true := by
  rw [isPem, List.isPrefixOf_iff_prefix] at pem ⊢
  exact pem.trans (List.prefix_append file rest)

/-- Of a file that begins as PEM nothing but its sections matters. -/
theorem ofContent_congr {file file' : Bytes} (pem : isPem file = true) (pem' : isPem file' = true)
    (same : Pem.sections file = Pem.sections file') : ofContent file = ofContent file' := by
  simp only [ofContent, pem, pem', same, Bool.not_true, Bool.false_eq_true, if_false]

inductive Part where
  | certificate (content : Bytes)
  | other (label : Pem.Line) (rows : List Pem.Line)
  | comment (text : Bytes)

def Part.text : Part → Bytes
  | certificate content =>
    Pem.ofLines (Pem.bounded Pem.certificateLabel (Pem.cut 64 (Base64.encode content)))
  | other label rows => Pem.ofLines (Pem.bounded label rows)
  | comment text => text

def Part.certificate? : Part → Option Bytes
  | certificate content => some content
  | _ => none

/-- Other sections hold some bytes in base 64, and comments begin no section. -/
def Part.IsWellFormed : Part → Prop
  | certificate _ => True
  | other label rows => Pem.IsLabel label ∧ label ≠ Pem.certificateLabel ∧
    ∃ content, rows.flatten = Base64.encode content
  | comment text => Pem.Outside text

theorem isLabel_certificate : Pem.IsLabel Pem.certificateLabel :=
  ⟨by decide, by decide +kernel⟩

theorem Part.ended {p : Part} (wellFormed : p.IsWellFormed) : Pem.EndsLine p.text := by
  cases p with
  | certificate content => exact Pem.endsLine_ofLines _
  | other label rows => exact Pem.endsLine_ofLines _
  | comment text => exact wellFormed.ended

theorem Part.sections {p : Part} (wellFormed : p.IsWellFormed) :
    ∃ found, Pem.sections p.text = .ok found ∧ among found = p.certificate?.toList := by
  cases p with
  | certificate content =>
    have positive : 0 < 64 := by decide
    have rows := Pem.flatten_cut positive (Base64.encode content)
    refine ⟨_, Pem.sections_bounded isLabel_certificate rows, ?_⟩
    have known : Pem.knownLabels.contains Pem.certificateLabel = true := by decide
    rw [if_pos known]
    simp [among, certificate?]
  | other label rows =>
    obtain ⟨isLabel, different, content, coded⟩ := wellFormed
    refine ⟨_, Pem.sections_bounded isLabel coded, ?_⟩
    split <;> simp [among, certificate?, different]
  | comment text => exact ⟨[], wellFormed.sections, rfl⟩

theorem sections_parts {parts : List Part} (wellFormed : ∀ p ∈ parts, p.IsWellFormed) :
    ∃ found, Pem.sections (parts.flatMap Part.text) = .ok found ∧
      among found = parts.filterMap Part.certificate? := by
  induction parts with
  | nil => exact ⟨[], rfl, rfl⟩
  | cons p parts ih =>
    have first := wellFormed p List.mem_cons_self
    obtain ⟨front, here, own⟩ := Part.sections first
    obtain ⟨back, there, others⟩ := ih fun q mem => wellFormed q (List.mem_cons_of_mem p mem)
    refine ⟨front ++ back, ?_, ?_⟩
    · rw [List.flatMap_cons, Pem.sections_append (Part.ended first) here, there]
      rfl
    · rw [among_append, own, others, List.filterMap_cons]
      cases p.certificate? <;> rfl

theorem isPem_certificate (content rest : Bytes) :
    isPem ((Part.certificate content).text ++ rest) = true := by
  have begins : isPem Pem.beginMark = true := by decide
  rw [Part.text, Pem.bounded, List.cons_append, Pem.ofLines_cons]
  simp only [List.append_assoc]
  exact isPem_append begins _

structure Lists (fs : FileSystem) (path : String) (file : Bytes) : Prop where
  /-- A file of certificates gives them in order, whatever stands after and between them. -/
  listed (first : Bytes) (parts : List Part) (wellFormed : ∀ p ∈ parts, p.IsWellFormed)
    (made : file = (Part.certificate first :: parts).flatMap Part.text) :
    load fs path = .ok (first :: parts.filterMap Part.certificate?)
  refused (parts : List Part) (wellFormed : ∀ p ∈ parts, p.IsWellFormed)
    (others : ∀ p ∈ parts, p.certificate? = none) (made : file = parts.flatMap Part.text)
    (pem : Pem.ascii "-----BEGIN" <+: file) :
    ∃ e, load fs path = .error e ∧ e.code = "tunnel.quic.credentials_failed"
  /-- Any file that does not begin as PEM is one certificate. -/
  raw (notPem : ¬ Pem.ascii "-----BEGIN" <+: file) : load fs path = .ok [file]

theorem lists_certificates (read : fs.read path = .ok file) : Lists fs path file where
  listed first parts wellFormed made := by
    have all : ∀ p ∈ .certificate first :: parts, p.IsWellFormed :=
      List.forall_mem_cons.2 ⟨trivial, wellFormed⟩
    obtain ⟨found, sections, own⟩ := sections_parts all
    have pem : isPem file = true := by
      rw [made, List.flatMap_cons]
      exact isPem_certificate first _
    rw [load_eq read, ofContent_pem pem (made ▸ sections), own]
    rfl
  refused parts wellFormed others made pem := by
    obtain ⟨found, sections, own⟩ := sections_parts wellFormed
    have nothing : parts.filterMap Part.certificate? = [] := List.filterMap_eq_nil_iff.2 others
    refine ⟨⟨.credentials, "no certificate found in PEM file"⟩, ?_, rfl⟩
    rw [load_eq read, ofContent_pem (List.isPrefixOf_iff_prefix.2 pem) (made ▸ sections), own,
      nothing]
    rfl
  raw notPem := by
    have notPem : isPem file = false := by
      rw [isPem, Bool.eq_false_iff, Ne, List.isPrefixOf_iff_prefix]
      exact notPem
    rw [load_eq read, ofContent_raw notPem]

def holding (file : Bytes) : FileSystem :=
  (FileSystem.scratch ["tmp"]).put ["tmp", "a.pem"] (.file file none)

theorem read_holding (file : Bytes) : (holding file).read "a.pem" = .ok file := by
  have isPath : FileSystem.checkPath "a.pem" = .ok () :=
    FileSystem.checkPath_eq (by decide +kernel) (by decide +kernel) (by decide +kernel)
  have names : Path.pieces "a.pem" = ["a.pem"] := by decide +kernel
  have relative : Path.isAbsolute "a.pem" = false := by decide +kernel
  have start : (holding file).start "a.pem" = ["tmp"] := by rw [FileSystem.start, relative]; rfl
  have above : (holding file).node? ["tmp"] = some .directory := rfl
  have here : (holding file).node? ["tmp", "a.pem"] = some (.file file none) := rfl
  have size : "a.pem".utf8ByteSize = 5 := by decide +kernel
  have found : (holding file).walk FileSystem.maxLinks ["tmp"] ["a.pem"] =
      .ok (.node ["tmp", "a.pem"]) := by
    simp [FileSystem.walk, above, here, size, FileSystem.maxName]
  rw [FileSystem.read, FileSystem.resolve, isPath, names, start]
  simp only [bind, Except.bind, found, here]
  rfl

def keyBetween : List Part :=
  [.comment (Pem.ascii "subject=CN = b\n"),
    .other (Pem.ascii "RSA PRIVATE KEY") [Pem.ascii "AQID", Pem.ascii "BAU="],
    .certificate [7, 8]]

theorem lists_certificates_keyBetween :
    (holding ((Part.certificate [1] :: keyBetween).flatMap Part.text)).read "a.pem" =
        .ok ((Part.certificate [1] :: keyBetween).flatMap Part.text) ∧
      load (holding ((Part.certificate [1] :: keyBetween).flatMap Part.text)) "a.pem" =
        .ok [[1], [7, 8]] := by
  have wellFormed : ∀ p ∈ keyBetween, p.IsWellFormed := by
    simp only [keyBetween, List.forall_mem_cons]
    refine ⟨⟨by decide +kernel, by decide +kernel⟩,
      ⟨⟨by decide, by decide +kernel⟩, by decide, [1, 2, 3, 4, 5], ?_⟩, ?_⟩
    · decide
    · exact ⟨trivial, by simp⟩
  exact ⟨read_holding _,
    (lists_certificates (read_holding _)).listed [1] keyBetween wellFormed rfl⟩

theorem isPem_explanatory {text : Bytes} (explanatory : Pem.IsExplanatory text)
    (nonempty : text ≠ []) (rest : Bytes) : isPem (text ++ rest) = false := by
  rw [isPem, Bool.eq_false_iff, Ne, List.isPrefixOf_iff_prefix]
  exact explanatory.not_begins nonempty (by decide) (List.isPrefixOf_iff_prefix.1 (by decide)) rest

/-- What lines of text do to a file that has them before some of its sections. -/
structure HasAside (before text after : Bytes) : Prop where
  unread : Pem.sections (before ++ text ++ after) = Pem.sections (before ++ after)
  /-- Behind the first section the certificates are the same as without them. -/
  behind (pem : Pem.ascii "-----BEGIN" <+: before) {fs fs' : FileSystem} {path path' : String}
    (noted : fs.read path = .ok (before ++ text ++ after))
    (bare : fs'.read path' = .ok (before ++ after)) : load fs path = load fs' path'
  /-- In front of all sections they make the whole file one certificate. -/
  inFront (nothing : before = []) (nonempty : text ≠ []) {fs : FileSystem} {path : String}
    (noted : fs.read path = .ok (text ++ after)) : load fs path = .ok [text ++ after]

theorem has_aside {before text : Bytes} {found : List Pem.Section} (whole : Pem.EndsLine before)
    (closed : Pem.sections before = .ok found) (explanatory : Pem.IsExplanatory text)
    (after : Bytes) : HasAside before text after where
  unread := Pem.sections_aside whole closed explanatory.outside after
  behind pem fs fs' path path' noted bare := by
    have begins : isPem before = true := List.isPrefixOf_iff_prefix.2 pem
    have same := Pem.sections_aside whole closed explanatory.outside after
    rw [load_eq noted, load_eq bare]
    refine ofContent_congr ?_ (isPem_append begins after) same
    exact isPem_append (isPem_append begins text) after
  inFront nothing nonempty fs path noted := by
    rw [load_eq noted, ofContent_raw (isPem_explanatory explanatory nonempty after)]

def subjectLine : Bytes := Pem.ascii "subject=CN = tunnel\n"

theorem isExplanatory_subjectLine : Pem.IsExplanatory subjectLine :=
  ⟨by decide +kernel, by decide +kernel⟩

theorem has_aside_subjectLine :
    Pem.EndsLine (Part.certificate [1]).text ∧
      Pem.sections (Part.certificate [1]).text = .ok [⟨Pem.certificateLabel, [1]⟩] ∧
      Pem.IsExplanatory subjectLine ∧
      HasAside (Part.certificate [1]).text subjectLine (Part.certificate [2]).text := by
  have whole : Pem.EndsLine (Part.certificate [1]).text :=
    Part.ended (p := .certificate [1]) trivial
  have closed : Pem.sections (Part.certificate [1]).text = .ok [⟨Pem.certificateLabel, [1]⟩] := by
    rfl
  have explanatory := isExplanatory_subjectLine
  exact ⟨whole, closed, explanatory, has_aside whole closed explanatory _⟩

/-- The same line in front of a certificate file makes it another certificate. -/
theorem subjectLine_in_front :
    Pem.IsExplanatory subjectLine ∧
      load (holding (Part.certificate [1]).text) "a.pem" = .ok [[1]] ∧
      load (holding (subjectLine ++ (Part.certificate [1]).text)) "a.pem" =
        .ok [subjectLine ++ (Part.certificate [1]).text] ∧
      [subjectLine ++ (Part.certificate [1]).text] ≠ [[1]] := by
  refine ⟨isExplanatory_subjectLine, ?_, ?_, by decide⟩
  · rw [load_eq (read_holding _)]
    rfl
  · rw [load_eq (read_holding _), ofContent_raw (by decide)]

end MessageTunnel.Quic.Certificates

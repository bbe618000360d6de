import Mathlib.Tactic.ByContra
import SidecarAgent.Egress.Rule
import SidecarAgent.Proofs.Texts

/-!
# Which host names are accepted

A host name is accepted when it is well formed (`WellFormed`): a first label and, with a dot before
each of them, any number of DNS labels, of which the first alone may be or begin with a star.  Every
text has its labels (`LabelsOf`), and of one that is no host name the first fault is reported
(`hostFault?_eq_some_iff`): that there is nothing in it, that it is too long, that its first label
is wrong, or that a later one is.
-/

namespace SidecarAgent.Egress

open Text (splitOn_eq_iff)

/-! ## Labels -/

/-- A DNS label has 1 to 63 letters, digits and hyphens, with a hyphen neither first nor last. -/
structure DnsLabel (label : String) : Prop where
  length : 1 ≤ label.length ∧ label.length ≤ 63
  characters : ∀ c ∈ label.toList, c.isAlphanum = true ∨ c = '-'
  first : label.toList.head? ≠ some '-'
  last : label.toList.getLast? ≠ some '-'

/-- A first label takes at most 63 bytes and is a star, a DNS label with a star before it, or a DNS
label. -/
structure FirstLabel (label : String) : Prop where
  short : label.utf8ByteSize ≤ 63
  shape : label = "*" ∨ (∃ rest, label = "*" ++ rest ∧ DnsLabel rest) ∨ DnsLabel label

/-- Labels with a dot before each of them, behind a first one. -/
def written (first : String) (later : List String) : String :=
  first ++ String.join (later.map ("." ++ ·))

/-- A host name is well formed when it has 1 to 255 bytes and is a first label with any number of
DNS labels behind it, each with a dot before it. -/
structure WellFormed (host : String) : Prop where
  size : 1 ≤ host.utf8ByteSize ∧ host.utf8ByteSize ≤ 255
  labels : ∃ first later, host = written first later ∧ FirstLabel first ∧
    ∀ label ∈ later, DnsLabel label

/-- The labels of a text are what it has between its dots. -/
structure LabelsOf (host first : String) (later : List String) : Prop where
  written : host = written first later
  dotless : '.' ∉ first.toList ∧ ∀ label ∈ later, '.' ∉ label.toList

/-- The characters of labels with dots between them. -/
theorem toList_written (first : String) (later : List String) :
    (written first later).toList = ['.'].intercalate (first.toList :: later.map String.toList) := by
  unfold written
  rw [String.toList_append, String.toList_join]
  induction later generalizing first with
  | nil => simp
  | cons label rest ih =>
    have hrest := ih label
    simp only [List.map_cons, List.flatMap_cons, String.toList_append,
      List.intercalate_cons_cons] at hrest ⊢
    rw [← hrest]
    simp

/-- A text that is cut at its dots is in its labels. -/
theorem splitOn_eq_iff_labelsOf {host first : String} {later : List String} :
    host.toList.splitOn '.' = first.toList :: later.map String.toList ↔
      LabelsOf host first later := by
  rw [splitOn_eq_iff, ← toList_written, String.toList_inj]
  constructor
  · rintro ⟨-, hclear, hwritten⟩
    refine ⟨hwritten, hclear _ (by simp), fun label hlabel => hclear _ ?_⟩
    exact List.mem_cons_of_mem _ (List.mem_map_of_mem hlabel)
  · rintro ⟨hwritten, hfirst, hlater⟩
    refine ⟨List.cons_ne_nil _ _, ?_, hwritten⟩
    simpa using ⟨hfirst, hlater⟩

/-- Every text has labels. -/
theorem exists_labelsOf (host : String) : ∃ first later, LabelsOf host first later := by
  obtain ⟨first, later, hsplit⟩ := List.exists_cons_of_ne_nil (List.splitOn_ne_nil '.' host.toList)
  refine ⟨String.ofList first, later.map String.ofList, splitOn_eq_iff_labelsOf.1 ?_⟩
  rw [hsplit]
  simp [Function.comp_def]

/-! ## Checks of labels -/

/-- The bytes that characters take are those of the text that they make up. -/
theorem byteLength_toList (s : String) : byteLength s.toList = s.utf8ByteSize := by
  have hlist : ∀ cs : List Char, byteLength cs = (String.ofList cs).utf8ByteSize := by
    intro cs
    induction cs with
    | nil => rfl
    | cons c rest ih =>
      rw [String.ofList_cons, String.utf8ByteSize_append, String.utf8ByteSize_singleton, ← ih]
      rfl
  rw [hlist, String.ofList_toList]

/-- What may stand in a label is a letter, a digit or a hyphen. -/
theorem isLabelChar_iff {c : Char} : isLabelChar c = true ↔ c.isAlphanum = true ∨ c = '-' := by
  unfold isLabelChar
  rw [Bool.or_eq_true, decide_eq_true_eq]

/-- The check of a label accepts the DNS labels. -/
theorem isDnsLabel_iff {label : String} : isDnsLabel label.toList = true ↔ DnsLabel label := by
  have hhyphen : ('-' : Char).isAlphanum = false := by decide
  constructor
  · intro h
    unfold isDnsLabel at h
    split at h
    · rename_i first last hfirst hlast
      simp only [Bool.and_eq_true, decide_eq_true_eq, List.all_eq_true] at h
      obtain ⟨⟨⟨hlength, hfirst'⟩, hlast'⟩, hall⟩ := h
      have hne : label.toList ≠ [] := by
        intro hnil
        rw [hnil] at hfirst
        cases hfirst
      refine ⟨⟨?_, ?_⟩, fun c hc => isLabelChar_iff.1 (hall c hc), ?_, ?_⟩
      · rw [← String.length_toList]
        exact List.length_pos_iff.2 hne
      · rw [← String.length_toList]
        exact hlength
      · rw [hfirst]
        rintro ⟨⟩
        rw [hhyphen] at hfirst'
        cases hfirst'
      · rw [hlast]
        rintro ⟨⟩
        rw [hhyphen] at hlast'
        cases hlast'
    · cases h
  · rintro ⟨⟨hpos, hlength⟩, hall, hfirst, hlast⟩
    rw [← String.length_toList] at hpos hlength
    have hne : label.toList ≠ [] := List.ne_nil_of_length_pos hpos
    have hfirst' : label.toList.head? = some (label.toList.head hne) := List.head?_eq_some_head hne
    have hlast' : label.toList.getLast? = some (label.toList.getLast hne) :=
      List.getLast?_eq_some_getLast hne
    -- either end is a character of the label, and is not the hyphen
    have hends : (label.toList.head hne).isAlphanum = true ∧
        (label.toList.getLast hne).isAlphanum = true := by
      rw [hfirst'] at hfirst
      rw [hlast'] at hlast
      exact ⟨(hall _ (List.head_mem hne)).resolve_right fun h => hfirst (congrArg some h),
        (hall _ (List.getLast_mem hne)).resolve_right fun h => hlast (congrArg some h)⟩
    unfold isDnsLabel
    rw [hfirst', hlast']
    simp only [Bool.and_eq_true, decide_eq_true_eq, List.all_eq_true]
    exact ⟨⟨⟨hlength, hends.1⟩, hends.2⟩, fun c hc => isLabelChar_iff.2 (hall c hc)⟩

/-- What may not stand in a label is in no DNS label. -/
theorem DnsLabel.not_mem {label : String} {c : Char} (h : DnsLabel label)
    (hc : isLabelChar c = false) :
    c ∉ label.toList := by
  intro hmem
  rw [isLabelChar_iff.2 (h.characters c hmem)] at hc
  cases hc

/-- The check of a first label accepts the first labels. -/
theorem isFirstLabel_iff {label : String} :
    isFirstLabel label.toList = true ↔ FirstLabel label := by
  have hshort : byteLength label.toList ≤ maxLabelLength ↔ label.utf8ByteSize ≤ 63 := by
    rw [byteLength_toList]
    rfl
  unfold isFirstLabel
  rw [Bool.and_eq_true, decide_eq_true_eq, hshort]
  constructor
  · rintro ⟨hsize, hshape⟩
    refine ⟨hsize, ?_⟩
    split at hshape
    · rename_i hstar
      exact .inl (String.toList_inj.1 hstar)
    · rename_i rest hne hlabel
      refine .inr (.inl ⟨String.ofList rest, ?_, ?_⟩)
      · rw [← String.toList_inj, hlabel]
        simp
      · rw [← isDnsLabel_iff, String.toList_ofList]
        exact hshape
    · exact .inr (.inr (isDnsLabel_iff.1 hshape))
  · rintro ⟨hsize, hshape⟩
    refine ⟨hsize, ?_⟩
    rcases hshape with rfl | ⟨rest, rfl, hrest⟩ | hlabel
    · rfl
    · have hstarred : ("*" ++ rest).toList = '*' :: rest.toList := by simp
      rw [hstarred]
      split
      · rfl
      · rename_i heq
        cases heq
        exact isDnsLabel_iff.2 hrest
      · rename_i hne
        exact absurd rfl (hne rest.toList)
    · have hstarless : '*' ∉ label.toList := hlabel.not_mem (by decide)
      split
      · rfl
      · rename_i heq
        rw [heq] at hstarless
        exact absurd List.mem_cons_self hstarless
      · exact isDnsLabel_iff.2 hlabel

/-! ## Faults -/

namespace HostFault

/-- What is wrong with a text that has a fault. -/
def Applies (host : String) : HostFault → Prop
  | empty => host = ""
  | tooLong => 255 < host.utf8ByteSize
  | firstLabel => ∃ first later, LabelsOf host first later ∧ ¬ FirstLabel first
  | laterLabel => ∃ first later, LabelsOf host first later ∧ ∃ label ∈ later, ¬ DnsLabel label

/-- The faults that are looked for before a fault. -/
def before : HostFault → List HostFault
  | empty => []
  | tooLong => [empty]
  | firstLabel => [empty, tooLong]
  | laterLabel => [empty, tooLong, firstLabel]

end HostFault

/-- The first fault of a text: it has the fault, and none of those before it. -/
def FirstFault (host : String) (fault : HostFault) : Prop :=
  fault.Applies host ∧ ∀ earlier ∈ fault.before, ¬ earlier.Applies host

/-- A text has one list of labels only. -/
theorem LabelsOf.unique {host first other : String} {later rest : List String}
    (h : LabelsOf host first later) (h' : LabelsOf host other rest) :
    first = other ∧ later = rest := by
  have hsame : first.toList :: later.map String.toList = other.toList :: rest.map String.toList :=
    (splitOn_eq_iff_labelsOf.2 h).symm.trans (splitOn_eq_iff_labelsOf.2 h')
  obtain ⟨hfirst, hlater⟩ := List.cons_eq_cons.1 hsame
  refine ⟨String.toList_inj.1 hfirst, ?_⟩
  exact (List.map_inj_right fun s t hst => String.toList_inj.1 hst).1 hlater

variable {host first : String} {later : List String}

/-- The first label of a text is wrong when it is no first label. -/
theorem LabelsOf.firstLabel_iff (h : LabelsOf host first later) :
    HostFault.firstLabel.Applies host ↔ ¬ FirstLabel first := by
  constructor
  · rintro ⟨other, rest, hother, hwrong⟩
    rw [(h.unique hother).1]
    exact hwrong
  · intro hwrong
    exact ⟨first, later, h, hwrong⟩

/-- A later label of a text is wrong when one of them is no DNS label. -/
theorem LabelsOf.laterLabel_iff (h : LabelsOf host first later) :
    HostFault.laterLabel.Applies host ↔ ∃ label ∈ later, ¬ DnsLabel label := by
  constructor
  · rintro ⟨other, rest, hother, hwrong⟩
    rw [(h.unique hother).2]
    exact hwrong
  · intro hwrong
    exact ⟨first, later, h, hwrong⟩

/-- The check reports the first fault of a text. -/
theorem hostFault?_eq_some_iff {fault : HostFault} :
    hostFault? host.toList = some fault ↔ FirstFault host fault := by
  obtain ⟨first, later, hlabels⟩ := exists_labelsOf host
  have hempty : host.toList.isEmpty = true ↔ HostFault.empty.Applies host := by
    rw [List.isEmpty_iff, String.toList_eq_nil_iff]
    rfl
  have hlong : maxHostLength < byteLength host.toList ↔ HostFault.tooLong.Applies host := by
    rw [byteLength_toList]
    rfl
  have hfirst : (!isFirstLabel first.toList) = true ↔ HostFault.firstLabel.Applies host := by
    rw [hlabels.firstLabel_iff, ← isFirstLabel_iff, Bool.not_eq_true', Bool.eq_false_iff]
  have hlater : (!(later.map String.toList).all isDnsLabel) = true ↔
      HostFault.laterLabel.Applies host := by
    rw [hlabels.laterLabel_iff]
    simp [← isDnsLabel_iff]
  unfold hostFault? FirstFault
  rw [splitOn_eq_iff_labelsOf.2 hlabels]
  dsimp only
  by_cases h1 : HostFault.empty.Applies host
  · rw [if_pos (hempty.2 h1)]
    cases fault <;> simp [HostFault.before, h1]
  rw [if_neg (mt hempty.1 h1)]
  by_cases h2 : HostFault.tooLong.Applies host
  · rw [if_pos (hlong.2 h2)]
    cases fault <;> simp [HostFault.before, h1, h2]
  rw [if_neg (mt hlong.1 h2)]
  by_cases h3 : HostFault.firstLabel.Applies host
  · rw [if_pos (hfirst.2 h3)]
    cases fault <;> simp [HostFault.before, h1, h2, h3]
  rw [if_neg (mt hfirst.1 h3)]
  by_cases h4 : HostFault.laterLabel.Applies host
  · rw [if_pos (hlater.2 h4)]
    cases fault <;> simp [HostFault.before, h1, h2, h3, h4]
  rw [if_neg (mt hlater.1 h4)]
  cases fault <;> simp [h1, h2, h3, h4]

/-- A text with a fault has a first one. -/
theorem exists_firstFault {fault : HostFault} (h : fault.Applies host) :
    ∃ f, FirstFault host f := by
  by_cases h1 : HostFault.empty.Applies host
  · exact ⟨.empty, h1, by simp [HostFault.before]⟩
  by_cases h2 : HostFault.tooLong.Applies host
  · exact ⟨.tooLong, h2, by simp [HostFault.before, h1]⟩
  by_cases h3 : HostFault.firstLabel.Applies host
  · exact ⟨.firstLabel, h3, by simp [HostFault.before, h1, h2]⟩
  cases fault with
  | empty => exact absurd h h1
  | tooLong => exact absurd h h2
  | firstLabel => exact absurd h h3
  | laterLabel => exact ⟨.laterLabel, h, by simp [HostFault.before, h1, h2, h3]⟩

/-- The check reports nothing when a text has no fault. -/
theorem hostFault?_eq_none_iff :
    hostFault? host.toList = none ↔ ∀ fault : HostFault, ¬ fault.Applies host := by
  constructor
  · intro h fault happlies
    obtain ⟨f, hfirst⟩ := exists_firstFault happlies
    rw [hostFault?_eq_some_iff.2 hfirst] at h
    cases h
  · intro h
    cases hfault : hostFault? host.toList with
    | none => rfl
    | some fault => exact absurd (hostFault?_eq_some_iff.1 hfault).1 (h fault)

/-! ## Well-formed host names -/

/-- A first label begins with a star or a character of a DNS label, and has only the latter behind
it. -/
theorem FirstLabel.characters {label : String} (h : FirstLabel label) :
    ∃ c rest, label.toList = c :: rest ∧ (c = '*' ∨ c.isAlphanum = true ∨ c = '-') ∧
      ∀ d ∈ rest, d.isAlphanum = true ∨ d = '-' := by
  rcases h.shape with rfl | ⟨rest, rfl, hrest⟩ | hlabel
  · exact ⟨'*', [], rfl, .inl rfl, by simp⟩
  · exact ⟨'*', rest.toList, by simp, .inl rfl, hrest.characters⟩
  · have hlength : 0 < label.toList.length := by
      rw [String.length_toList]
      exact hlabel.length.1
    obtain ⟨c, rest, hsplit⟩ := List.exists_cons_of_length_pos hlength
    have hall := hlabel.characters
    rw [hsplit] at hall
    exact ⟨c, rest, hsplit, .inr (hall c List.mem_cons_self),
      fun d hd => hall d (List.mem_cons_of_mem c hd)⟩

/-- No first label has a dot. -/
theorem FirstLabel.dot_not_mem {label : String} (h : FirstLabel label) : '.' ∉ label.toList := by
  obtain ⟨c, rest, hsplit, hc, hrest⟩ := h.characters
  rw [hsplit]
  intro hdot
  rcases List.mem_cons.1 hdot with rfl | hdot
  · exact absurd hc (by decide)
  · exact absurd (hrest '.' hdot) (by decide)

/-- The labels that a host name is put together from are its labels. -/
theorem labelsOf_written (hfirst : FirstLabel first) (hlater : ∀ label ∈ later, DnsLabel label) :
    LabelsOf (written first later) first later :=
  ⟨rfl, hfirst.dot_not_mem, fun label hlabel => (hlater label hlabel).not_mem (by decide)⟩

/-- A host name is well formed when it has no fault. -/
theorem wellFormed_iff : WellFormed host ↔ ∀ fault : HostFault, ¬ fault.Applies host := by
  have hpos : 1 ≤ host.utf8ByteSize ↔ host ≠ "" := by
    rw [Nat.one_le_iff_ne_zero, Ne, String.utf8ByteSize_eq_zero_iff]
  constructor
  · rintro ⟨⟨hsize, hlimit⟩, first, later, rfl, hfirst, hlater⟩ fault
    have hlabels := labelsOf_written hfirst hlater
    cases fault with
    | empty => exact hpos.1 hsize
    | tooLong => exact Nat.not_lt.2 hlimit
    | firstLabel =>
      rw [hlabels.firstLabel_iff, not_not]
      exact hfirst
    | laterLabel =>
      rw [hlabels.laterLabel_iff]
      rintro ⟨label, hlabel, hwrong⟩
      exact hwrong (hlater label hlabel)
  · intro h
    obtain ⟨first, later, hlabels⟩ := exists_labelsOf host
    have hfirst : FirstLabel first := by
      have hfine := h .firstLabel
      rwa [hlabels.firstLabel_iff, not_not] at hfine
    have hlater : ∀ label ∈ later, DnsLabel label := by
      have hfine := h .laterLabel
      rw [hlabels.laterLabel_iff, not_exists] at hfine
      intro label hlabel
      by_contra hwrong
      exact hfine label ⟨hlabel, hwrong⟩
    exact ⟨⟨hpos.2 (h .empty), Nat.not_lt.1 (h .tooLong)⟩, first, later, hlabels.written,
      hfirst, hlater⟩

/-- The characters of labels with dots between them are those of the first, and others that are dots
or stand in a later one. -/
theorem exists_toList_written (first : String) (later : List String) :
    ∃ rest, (written first later).toList = first.toList ++ rest ∧
      ∀ c ∈ rest, c = '.' ∨ ∃ label ∈ later, c ∈ label.toList := by
  refine ⟨(String.join (later.map ("." ++ ·))).toList, String.toList_append, ?_⟩
  intro c hc
  rw [String.toList_join, List.mem_flatMap] at hc
  obtain ⟨dotted, hdotted, hc⟩ := hc
  obtain ⟨label, hlabel, rfl⟩ := List.mem_map.1 hdotted
  rw [String.toList_append, List.mem_append] at hc
  rcases hc with hdot | hc
  · exact .inl (by simpa using hdot)
  · exact .inr ⟨label, hlabel, hc⟩

/-- A well-formed host name begins with a star, a letter, a digit or a hyphen, and behind that has
letters, digits, hyphens and dots only. -/
theorem WellFormed.characters (h : WellFormed host) :
    ∃ c rest, host.toList = c :: rest ∧ (c = '*' ∨ c.isAlphanum = true ∨ c = '-') ∧
      ∀ d ∈ rest, d.isAlphanum = true ∨ d = '-' ∨ d = '.' := by
  obtain ⟨-, first, later, rfl, hfirst, hlater⟩ := h
  obtain ⟨c, rest, hsplit, hc, hrest⟩ := hfirst.characters
  obtain ⟨behind, hwritten, hbehind⟩ := exists_toList_written first later
  refine ⟨c, rest ++ behind, by rw [hwritten, hsplit, List.cons_append], hc, fun d hd => ?_⟩
  rcases List.mem_append.1 hd with hd | hd
  · rcases hrest d hd with halnum | hhyphen
    · exact .inl halnum
    · exact .inr (.inl hhyphen)
  · rcases hbehind d hd with hdot | ⟨label, hlabel, hd⟩
    · exact .inr (.inr hdot)
    · rcases (hlater label hlabel).characters d hd with halnum | hhyphen
      · exact .inl halnum
      · exact .inr (.inl hhyphen)

/-- Letters and digits are below 128. -/
theorem toNat_lt_of_isAlphanum {c : Char} (h : c.isAlphanum = true) : c.toNat < 128 := by
  have hranges : c.isAlphanum = (decide (c.val ≥ 'A'.val ∧ c.val ≤ 'Z'.val) ||
      (decide (c.val ≥ 'a'.val) && decide (c.val ≤ 'z'.val)) ||
      (decide (c.val ≥ '0'.val) && decide (c.val ≤ '9'.val))) := rfl
  simp only [hranges, Bool.or_eq_true, Bool.and_eq_true, decide_eq_true_eq, UInt32.le_iff_toNat_le,
    ge_iff_le] at h
  have hvalue : c.toNat = c.val.toNat := rfl
  have hZ : 'Z'.val.toNat = 90 := rfl
  have hz : 'z'.val.toNat = 122 := rfl
  have h9 : '9'.val.toNat = 57 := rfl
  omega

/-- A well-formed host name has characters below 128 only. -/
theorem WellFormed.toNat_lt (h : WellFormed host) : ∀ c ∈ host.toList, c.toNat < 128 := by
  obtain ⟨c, rest, hsplit, hc, hrest⟩ := h.characters
  rw [hsplit]
  intro d hd
  rcases List.mem_cons.1 hd with rfl | hd
  · rcases hc with rfl | halnum | rfl
    · decide
    · exact toNat_lt_of_isAlphanum halnum
    · decide
  · rcases hrest d hd with halnum | rfl | rfl
    · exact toNat_lt_of_isAlphanum halnum
    · decide
    · decide

/-- A well-formed host name has a star at its beginning only. -/
theorem WellFormed.star_not_mem_tail (h : WellFormed host) : '*' ∉ host.toList.tail := by
  obtain ⟨c, rest, hsplit, -, hrest⟩ := h.characters
  rw [hsplit, List.tail_cons]
  intro hstar
  exact absurd (hrest '*' hstar) (by decide)

/-- A well-formed host name has no empty label. -/
theorem WellFormed.labels_ne_empty (h : WellFormed host) (hlabels : LabelsOf host first later) :
    first ≠ "" ∧ ∀ label ∈ later, label ≠ "" := by
  obtain ⟨-, f, l, rfl, hfirst, hlater⟩ := h
  obtain ⟨rfl, rfl⟩ := (labelsOf_written hfirst hlater).unique hlabels
  constructor
  · rintro rfl
    obtain ⟨c, rest, hsplit, -⟩ := hfirst.characters
    cases hsplit
  · rintro label hlabel rfl
    have hlength := (hlater "" hlabel).length.1
    exact absurd hlength (by decide)

/-- A well-formed host name has no dot at its end. -/
theorem WellFormed.no_dot_last (h : WellFormed host) : ∀ rest, host ≠ rest ++ "." := by
  rintro rest rfl
  obtain ⟨first, later, hlabels⟩ := exists_labelsOf rest
  -- behind the dot there would be an empty label
  have hempty : LabelsOf (rest ++ ".") first (later ++ [""]) := by
    refine ⟨?_, hlabels.dotless.1, ?_⟩
    · rw [hlabels.written]
      unfold written
      simp [String.append_assoc]
    · intro label hlabel
      rcases List.mem_append.1 hlabel with hlabel | hlabel
      · exact hlabels.dotless.2 label hlabel
      · rw [List.mem_singleton.1 hlabel]
        exact List.not_mem_nil
  exact (h.labels_ne_empty hempty).2 "" (by simp) rfl

/-! ## Answers -/

/-- Validation of a host name fails with the fault that the check reports. -/
theorem validateHost_eq (host : String) :
    validateHost host = match hostFault? host.toList with
      | none => .ok ()
      | some fault => .error (.invalidHost host fault) := by
  unfold validateHost checkHost
  cases hostFault? host.toList with
  | none => rfl
  | some fault => rfl

/-- A host name is accepted exactly if it is well formed, and of any other text the first fault is
reported, in the order: nothing in it, more than 255 bytes, a wrong first label, a wrong later
label.  So no accepted host name has an empty label, a dot at its end, a star anywhere but at its
beginning, or a character that is not ASCII. -/
theorem accepted_iff_wellFormed :
    (∀ host, validateHost host = .ok () ↔ WellFormed host) ∧
    (∀ host e, validateHost host = .error e ↔
      ∃ fault, e = .invalidHost host fault ∧ FirstFault host fault) ∧
    ∀ host, validateHost host = .ok () →
      (∀ first later, LabelsOf host first later → first ≠ "" ∧ ∀ label ∈ later, label ≠ "") ∧
      (∀ rest, host ≠ rest ++ ".") ∧ '*' ∉ host.toList.tail ∧ ∀ c ∈ host.toList, c.toNat < 128 := by
  have haccepted : ∀ host, validateHost host = .ok () ↔ WellFormed host := by
    intro host
    rw [wellFormed_iff, ← hostFault?_eq_none_iff, validateHost_eq]
    cases hostFault? host.toList with
    | none => simp
    | some fault => simp
  refine ⟨haccepted, fun host e => ?_, fun host h => ?_⟩
  · simp only [← hostFault?_eq_some_iff]
    rw [validateHost_eq]
    cases hostFault? host.toList with
    | none => simp
    | some fault => simp [eq_comm]
  · have hwell : WellFormed host := (haccepted host).1 h
    exact ⟨fun first later => hwell.labels_ne_empty, hwell.no_dot_last, hwell.star_not_mem_tail,
      hwell.toNat_lt⟩

/-- The star counts towards the 63 bytes of a first label. -/
example : isFirstLabel ('*' :: List.replicate 62 'a') = true ∧
    isFirstLabel ('*' :: List.replicate 63 'a') = false := by
  decide

end SidecarAgent.Egress

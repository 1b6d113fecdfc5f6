import FormCheck.Proofs.MailGrammar

/-!
# The letters of a domain

A mailbox is recognised in small letters, so its domain is made of letters, digits and marks
of ASCII once it is written small.  Only two characters outside ASCII have one of ASCII in
their small form: the capital `I` with a dot, which leaves a mark behind that no domain takes,
and the Kelvin sign, which becomes a plain `k`.  So the domain as it was written is made of
ASCII as well, but for Kelvin signs that stand for that letter.
-/

namespace FormCheck

namespace Text

/-! ## Small letters -/

theorem toLower_of_outside {c : Char} (outside : 0x80 ≤ c.toNat) : c.toLower = c := by
  rcases toLower_cases c with same | ⟨-, below, -⟩
  · exact same
  · omega

/-- A sort that has the small letters of ASCII along with the capital ones does not tell small
letters from capital ones. -/
theorem sort_toLower (sort : Char → Prop)
    (ascii : ∀ point < 0x80, sort (Char.ofNat point).toLower ↔ sort (Char.ofNat point))
    (c : Char) : sort c.toLower ↔ sort c := by
  rcases Nat.lt_or_ge c.toNat 0x80 with inside | outside
  · have found := ascii c.toNat inside
    rwa [Char.ofNat_toNat] at found
  · rw [toLower_of_outside outside]

def kelvinSign : Char := '\u212A'

/-- A Kelvin sign as the letter that it looks like. -/
def kelvinAsLetter (c : Char) : Char :=
  if c = kelvinSign then 'k' else c

/-- A run of capital letters is one of ASCII, is the Kelvin sign alone, or leads to characters
outside ASCII. -/
theorem lowerShifts_cases : ∀ shift ∈ lowerShifts,
    shift.last < 0x80 ∨
      shift.first = kelvinSign.toNat ∧ shift.last = kelvinSign.toNat ∨
      0x80 ≤ shift.image ∧
        (shift.image + (shift.last - shift.first) < 0xD800 ∨
          0xDFFF < shift.image ∧ shift.image + (shift.last - shift.first) < 0x110000) := by
  decide +kernel

theorem toNat_ofNat {point : Nat} (valid : point.isValidChar) :
    (Char.ofNat point).toNat = point := by
  rw [Char.ofNat, dif_pos valid]
  rfl

/-- Outside ASCII only the Kelvin sign is moved into it. -/
theorem shifted_outside {c : Char} (outside : 0x80 ≤ c.toNat) (other : c ≠ kelvinSign) :
    0x80 ≤ (shifted lowerShifts c).toNat := by
  simp only [shifted]
  split
  · next shift found =>
    have inRun := List.find?_some found
    simp only [Bool.and_eq_true, decide_eq_true_eq] at inRun
    obtain ⟨⟨notBefore, notBehind⟩, -⟩ := inRun
    rcases lowerShifts_cases shift (List.mem_of_find?_eq_some found) with
      ascii | ⟨first, last⟩ | ⟨image, valid⟩
    · omega
    · exact absurd (Char.toNat_inj.mp (by omega)) other
    · have isValid : (shift.image + (c.toNat - shift.first)).isValidChar := by
        rw [Nat.isValidChar]
        omega
      rw [toNat_ofNat isValid]
      omega
  · exact outside

theorem lowerCase_of_ascii {c : Char} (ascii : c.toNat < 0x80) : lowerCase c = [c.toLower] :=
  if_pos ascii

theorem lowerCase_kelvinSign : lowerCase kelvinSign = ['k'] := by
  decide +kernel

/-- The small form of a character, by what it has of ASCII. -/
theorem lowerCase_cases (c : Char) :
    c.toNat < 0x80 ∨ c = kelvinSign ∨ lowerCase c = ['i', '\u0307'] ∨
      ∃ small, 0x80 ≤ small.toNat ∧ lowerCase c = [small] := by
  rcases Nat.lt_or_ge c.toNat 0x80 with ascii | outside
  · exact .inl ascii
  right
  by_cases kelvin : c = kelvinSign
  · exact .inl kelvin
  right
  rw [lowerCase, if_neg (Nat.not_lt.mpr outside)]
  split
  · exact .inl rfl
  · exact .inr ⟨_, shifted_outside outside kelvin, rfl⟩

end Text

namespace Mailbox

/-! ## The cut of a text written small -/

theorem at_mem_lowerCase_iff {c : Char} : '@' ∈ Text.lowerCase c ↔ c = '@' := by
  constructor
  · intro member
    rcases Text.lowerCase_cases c with ascii | rfl | dotted | ⟨small, outside, lowered⟩
    · rw [Text.lowerCase_of_ascii ascii, List.mem_singleton] at member
      exact (Text.sort_toLower (· = '@') (by decide) c).mp member.symm
    · rw [Text.lowerCase_kelvinSign] at member
      exact absurd member (by decide)
    · rw [dotted] at member
      exact absurd member (by decide)
    · rw [lowered, List.mem_singleton] at member
      exact absurd outside (by rw [← member]; decide)
  · rintro rfl
    decide

theorem at_mem_lower_iff {text : List Char} : '@' ∈ Text.lower text ↔ '@' ∈ text := by
  simp [Text.lower, at_mem_lowerCase_iff]

theorem exists_last_cut {text : List Char} (present : '@' ∈ text) :
    ∃ localPart domain, text = localPart ++ '@' :: domain ∧ '@' ∉ domain := by
  obtain ⟨after, before, backward, absent⟩ :=
    List.eq_append_cons_of_mem (List.mem_reverse.mpr present)
  refine ⟨before.reverse, after.reverse, ?_, by simpa using absent⟩
  simpa using congrArg List.reverse backward

theorem last_cut_unique {before after otherBefore otherAfter : List Char}
    (same : before ++ '@' :: after = otherBefore ++ '@' :: otherAfter) (absent : '@' ∉ after)
    (absentOther : '@' ∉ otherAfter) : before = otherBefore ∧ after = otherAfter := by
  have cut := cutLast_append absent before
  rw [same, cutLast_append absentOther, Option.some.injEq, Prod.mk.injEq] at cut
  exact ⟨cut.1.symm, cut.2.symm⟩

theorem lower_append_at (localPart domain : List Char) :
    Text.lower (localPart ++ '@' :: domain) = Text.lower localPart ++ '@' :: Text.lower domain := by
  rw [Text.lower, List.flatMap_append, List.flatMap_cons]
  rfl

/-- A text written small is cut where the text itself is. -/
theorem accepts_lower_iff {text : List Char} :
    accepts (Text.lower text) = true ↔
      ∃ localPart domain, text = localPart ++ '@' :: domain ∧ '@' ∉ domain ∧
        LocalPart (Text.lower localPart) ∧ Domain (Text.lower domain) := by
  constructor
  · intro accepted
    obtain ⟨smallLocal, smallDomain, whole, isLocal, isDomain⟩ := accepts_iff.mp accepted
    have present : '@' ∈ text := by
      rw [← at_mem_lower_iff, whole]
      simp
    obtain ⟨localPart, domain, rfl, absent⟩ := exists_last_cut present
    rw [lower_append_at] at whole
    obtain ⟨rfl, rfl⟩ := last_cut_unique whole (mt at_mem_lower_iff.mp absent)
      (isDomain.not_mem (by decide))
    exact ⟨localPart, domain, rfl, absent, isLocal, isDomain⟩
  · rintro ⟨localPart, domain, rfl, -, isLocal, isDomain⟩
    exact accepts_iff.mpr ⟨_, _, lower_append_at localPart domain, isLocal, isDomain⟩

/-! ## Domains as they were written -/

theorem DomainChar.ascii {c : Char} (inDomain : DomainChar c) : c.toNat < 0x80 := by
  have below : ∀ {last : Char}, c ≤ last → last.toNat < 0x80 → c.toNat < 0x80 :=
    fun atMost ascii => Nat.lt_of_le_of_lt (UInt32.le_iff_toNat_le.mp atMost) ascii
  rcases inDomain with ((⟨-, small⟩ | ⟨-, capital⟩) | ⟨-, digit⟩ | rfl) | rfl | rfl | rfl
  · exact below small (by decide)
  · exact below capital (by decide)
  · exact below digit (by decide)
  all_goals decide

theorem domainChar_toLower_iff {c : Char} : DomainChar c.toLower ↔ DomainChar c :=
  Text.sort_toLower DomainChar (by decide) c

/-- What becomes characters of a domain in small letters is one itself, a Kelvin sign being
taken for its letter. -/
theorem domainChar_of_lowerCase {c : Char} (small : ∀ m ∈ Text.lowerCase c, DomainChar m) :
    DomainChar (Text.kelvinAsLetter c) := by
  rcases Text.lowerCase_cases c with ascii | rfl | dotted | ⟨outer, outside, lowered⟩
  · have other : c ≠ Text.kelvinSign := by
      rintro rfl
      exact absurd ascii (by decide)
    rw [Text.lowerCase_of_ascii ascii] at small
    rw [Text.kelvinAsLetter, if_neg other]
    exact domainChar_toLower_iff.mp (small _ List.mem_cons_self)
  · decide
  · rw [dotted] at small
    exact absurd (small '\u0307' (by decide)) (by decide)
  · rw [lowered] at small
    exact absurd (small outer List.mem_cons_self).ascii (Nat.not_lt.mpr outside)

theorem lowerCase_of_domainChar {c : Char} (inDomain : DomainChar (Text.kelvinAsLetter c)) :
    Text.lowerCase c = [(Text.kelvinAsLetter c).toLower] := by
  unfold Text.kelvinAsLetter at *
  split at inDomain
  · next kelvin =>
    rw [if_pos kelvin, kelvin]
    exact Text.lowerCase_kelvinSign
  · next other =>
    rw [if_neg other]
    exact Text.lowerCase_of_ascii inDomain.ascii

theorem lower_of_domainChars {domain : List Char}
    (each : ∀ c ∈ domain, DomainChar (Text.kelvinAsLetter c)) :
    Text.lower domain = (domain.map Text.kelvinAsLetter).map Char.toLower := by
  induction domain with
  | nil =>
      rfl
  | cons c rest inductionHypothesis =>
      obtain ⟨first, later⟩ := List.forall_mem_cons.mp each
      rw [Text.lower, List.flatMap_cons, lowerCase_of_domainChar first, ← Text.lower,
        inductionHypothesis later]
      rfl

theorem domain_toLower_iff {text : List Char} : Domain (text.map Char.toLower) ↔ Domain text := by
  rw [← mem_domainPattern, ← mem_domainPattern]
  have marks : ∀ separator ∈ ['-', '.', '[', ']'], ∀ c : Char,
      c.toLower = separator ↔ c = separator := by
    intro separator member
    simp only [List.mem_cons, List.not_mem_nil, or_false] at member
    rcases member with rfl | rfl | rfl | rfl
    · exact Text.sort_toLower (· = '-') (by decide)
    · exact Text.sort_toLower (· = '.') (by decide)
    · exact Text.sort_toLower (· = '[') (by decide)
    · exact Text.sort_toLower (· = ']') (by decide)
  exact blind_domainPattern (Text.sort_toLower Digit (by decide))
    (Text.sort_toLower Letter (by decide)) marks text

/-- A domain is one in small letters when it is one with each Kelvin sign taken for its
letter. -/
theorem domain_lower_iff {domain : List Char} :
    Domain (Text.lower domain) ↔ Domain (domain.map Text.kelvinAsLetter) := by
  constructor
  · intro isDomain
    have each : ∀ c ∈ domain, DomainChar (Text.kelvinAsLetter c) := by
      intro c member
      apply domainChar_of_lowerCase
      intro m inside
      exact isDomain.domainChar m (List.mem_flatMap.mpr ⟨c, member, inside⟩)
    rwa [lower_of_domainChars each, domain_toLower_iff] at isDomain
  · intro isDomain
    have each : ∀ c ∈ domain, DomainChar (Text.kelvinAsLetter c) := by
      intro c member
      exact isDomain.domainChar _ (List.mem_map_of_mem member)
    rwa [lower_of_domainChars each, domain_toLower_iff]

end Mailbox

namespace BuiltIn

/-- A value is a mailbox exactly when its text has a last at sign with a local part before it
once that is written small, and a domain behind it once each Kelvin sign is read as a `k`.  So
what stands there is made of letters, digits and marks of ASCII, but for Kelvin signs. -/
theorem isEmail_iff_domain_letters (value : Value) :
    (isEmail value = true ↔
      ∃ localPart domain, value.display = localPart ++ '@' :: domain ∧ '@' ∉ domain ∧
        Mailbox.LocalPart (Text.lower localPart) ∧
        Mailbox.Domain (domain.map Text.kelvinAsLetter)) ∧
      (isEmail value = true → ∀ localPart domain,
        value.display = localPart ++ '@' :: domain → '@' ∉ domain →
        ∀ c ∈ domain, Mailbox.DomainChar c ∨ c = Text.kelvinSign) := by
  have exactly : isEmail value = true ↔
      ∃ localPart domain, value.display = localPart ++ '@' :: domain ∧ '@' ∉ domain ∧
        Mailbox.LocalPart (Text.lower localPart) ∧
        Mailbox.Domain (domain.map Text.kelvinAsLetter) := by
    simp only [isEmail, Mailbox.accepts_lower_iff, Mailbox.domain_lower_iff]
  refine ⟨exactly, ?_⟩
  intro accepted localPart domain whole absent c member
  obtain ⟨_, _, sameWhole, absentThere, -, isDomain⟩ := exactly.mp accepted
  obtain ⟨-, rfl⟩ :=
    Mailbox.last_cut_unique (whole.symm.trans sameWhole) absent absentThere
  have inDomain := isDomain.domainChar _ (List.mem_map_of_mem member)
  by_cases kelvin : c = Text.kelvinSign
  · exact .inr kelvin
  · rw [Text.kelvinAsLetter, if_neg kelvin] at inDomain
    exact .inl inDomain

/-- Letters of other scripts stand before the at sign only. -/
theorem cyrillic_local_part_has_ascii_domain :
    isEmail (.text "ИВАН@Mail-2.Example.ORG") = true ∧
      ∀ c ∈ "Mail-2.Example.ORG".toList, Mailbox.DomainChar c ∨ c = Text.kelvinSign := by
  have accepted : isEmail (.text "ИВАН@Mail-2.Example.ORG") = true := by
    decide +kernel
  exact ⟨accepted, (isEmail_iff_domain_letters (.text "ИВАН@Mail-2.Example.ORG")).2 accepted
    "ИВАН".toList "Mail-2.Example.ORG".toList (by decide +kernel) (by decide +kernel)⟩

/-- A domain with a Kelvin sign in the place of its `k` is taken for one of ASCII. -/
theorem kelvin_sign_is_taken_for_letter :
    isEmail (.text "a@example.Kom") = true ∧
      "a@example.Kom".toList = "a".toList ++ '@' :: "example.Kom".toList ∧
      '@' ∉ "example.Kom".toList ∧
      'K' ∈ "example.Kom".toList ∧ ¬ Mailbox.DomainChar 'K' := by
  decide +kernel

end BuiltIn

end FormCheck

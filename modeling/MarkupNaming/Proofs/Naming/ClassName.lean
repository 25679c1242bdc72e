import MarkupNaming.Naming.Rule
import MarkupNaming.Proofs.Markup.Repetition
import MarkupNaming.Proofs.Markup.Token
import MarkupNaming.Proofs.Naming.Sanitizing
import MarkupNaming.Proofs.Text.Encoding

/-!
# Class names

The names that the rule for the place in a document makes can stand in a class attribute: they
are not empty and hold no blank, no quote and no `>`. Each segment keeps to such characters, and
an element always has a hash of its place.
-/
namespace MarkupNaming
open Text

/-! ## Names of tags -/

namespace Markup
variable {t after name : Text}

/-- An opening tag has the lowercase of a name of a tag. -/
theorem exists_tagName_of_token? {closesItself : Bool}
    (h : token? t = some (.opener name closesItself, after)) : ∃ n :
      TagName, lower n.text = name := by
  unfold token? at h
  split at h
  · cases h
  · cases h
  · split at h <;> cases h
  · cases h
  · next rest _ _ _ =>
    cases hopening : opening? (.char '<' :: rest) with
    | none => rw [hopening] at h; cases h
    | some pair =>
      rw [hopening] at h
      cases h
      simp only [opening?, Option.bind_eq_bind, Option.bind_eq_some_iff] at hopening
      obtain ⟨tag, -, written, hwritten, heq⟩ := hopening
      cases heq
      obtain ⟨n, rfl, -⟩ := TagName.exists_of_tagName? hwritten
      exact ⟨n, rfl⟩
  · cases h

theorem exists_tagName_of_mem_tokensWithin {count : Nat} {closesItself : Bool}
    (h : .opener name closesItself ∈ tokensWithin count t) :
    ∃ n : TagName, lower n.text = name := by
  fun_induction tokensWithin count t with
  | case1 t => cases h
  | case2 count t hcount hnone => cases h
  | case3 count t hcount token after htoken ih =>
    rcases List.mem_cons.1 h with rfl | h
    · exact exists_tagName_of_token? htoken
    · exact ih h

/-- What holds of the names of opening tags holds of the open names. -/
theorem mem_of_mem_foldl_track {tokens : List Token} {stack : List Text}
    (h : name ∈ tokens.foldl track stack) :
    name ∈ stack ∨ ∃ closesItself, .opener name closesItself ∈ tokens := by
  induction tokens generalizing stack with
  | nil => exact .inl h
  | cons token tokens ih =>
    rcases ih h with h | ⟨closesItself, h⟩
    · cases token with
      | opener opened closesItself =>
        rw [track] at h
        split at h
        · exact .inl h
        · rcases List.mem_cons.1 h with rfl | h
          · exact .inr ⟨closesItself, List.mem_cons_self⟩
          · exact .inl h
      | closer closed => exact .inl (List.mem_of_mem_erase h)
      | other => exact .inl h
    · exact .inr ⟨closesItself, List.mem_cons_of_mem _ h⟩

/-- A chain of tags is made of the lowercase of names of tags. -/
theorem exists_tagName_of_mem_ancestors {document : Text} {offset : Int}
    (h : name ∈ ancestors document offset) : ∃ n : TagName, lower n.text = name := by
  rw [ancestors_eq_chain, chain, List.mem_append, List.mem_reverse] at h
  rcases h with h | h
  · rcases mem_of_mem_foldl_track h with h | ⟨closesItself, h⟩
    · cases h
    · exact exists_tagName_of_mem_tokensWithin h
  · rw [Option.mem_toList, Option.map_eq_some_iff] at h
    obtain ⟨written, hwritten, rfl⟩ := h
    obtain ⟨n, rfl, -⟩ := TagName.exists_of_tagName? hwritten
    exact ⟨n, rfl⟩

theorem isPlain_of_mem_ancestors {document : Text} {offset : Int}
    (h : name ∈ ancestors document offset) : ∀ c ∈ name, isPlain c = true := by
  obtain ⟨n, rfl⟩ := exists_tagName_of_mem_ancestors h
  intro c hc
  exact isPlain_of_mem_lower (fun d hd => isPlain_of_isWord (n.isWord_of_mem hd)) hc

/-- A chain of tags has no surrogates. -/
theorem isEncodable_chainText_ancestors (document : Text) (offset : Int) :
    Utf8.IsEncodable (chainText (ancestors document offset)) := by
  intro c hc
  rcases mem_join hc with hc | ⟨name, hname, hc⟩
  · obtain rfl : c = '>' := by simpa using hc
    rfl
  · obtain ⟨n, rfl⟩ := exists_tagName_of_mem_ancestors hname
    exact isSurrogate_eq_false_of_mem_lower
      (fun d hd => isSurrogate_eq_false_of_isWord (n.isWord_of_mem hd)) hc

/-- The chain of tags at an element is not empty. -/
theorem Tag.chainText_ancestors_ne_nil (tag : Tag) (front back : Text) :
    chainText (ancestors (front ++ (tag.text ++ back)) front.length) ≠ [] := by
  have hmem : lower tag.name.text ∈ ancestors (front ++ (tag.text ++ back)) front.length := by
    have hlimit : min front.length (front ++ (tag.text ++ back)).length = front.length := by
      rw [List.length_append]
      omega
    rw [ancestors_eq_chain, Int.toNat_natCast, hlimit, chain, List.drop_left,
      tag.tagName?_text_append]
    simp
  exact join_ne_nil hmem (lower_ne_nil tag.name.ne_nil)

end Markup

/-! ## Segments -/

namespace Naming

/-- Abbreviating plain segments gives plain characters. -/
theorem isPlain_of_mem_abbreviate {segments : List Text} {length : Int} {c : Code}
    (hplain : ∀ segment ∈ segments, ∀ c ∈ segment, isPlain c = true)
    (h : c ∈ abbreviate segments length) : isPlain c = true := by
  rcases mem_join h with h | ⟨part, hpart, h⟩
  · obtain rfl : c = '-' := by simpa using h
    decide
  · obtain ⟨segment, hsegment, rfl⟩ := List.mem_map.1 hpart
    refine isPlain_of_mem_lower (fun d hd => hplain segment hsegment d ?_) h
    exact List.mem_of_mem_take hd

theorem hexDigits_of_lt {n : Nat} (h : n < 256) :
    hexDigits 2 n ≠ [] ∧ ∀ c ∈ hexDigits 2 n, isPlain c = true := by
  have hbytes : ∀ n < 256, hexDigits 2 n ≠ [] ∧ (hexDigits 2 n).all isPlain = true := by
    decide +kernel
  obtain ⟨hne, hplain⟩ := hbytes n h
  exact ⟨hne, List.all_eq_true.1 hplain⟩

/-- A rule composes what its segments give. -/
theorem Rule.generate_eq_ok_iff {r : Rule} {context : Context} {settings : Settings} {today : Date}
    {name : Text} : r.generate context settings today = .ok name ↔
      ∃ parts, List.Forall₂ (fun s part => Segment.generate context settings today s = .ok part)
        r.segments parts ∧ compose r.separator parts = name := by
  simp only [generate, ← mapM_eq_ok_iff]
  cases r.segments.mapM (Segment.generate context settings today) <;> simp [Except.map]

theorem hex_ne_nil (bytes : List UInt8) : Md5.hex bytes ≠ [] := by
  intro h
  obtain ⟨byte, hbyte⟩ : ∃ byte, byte ∈ Md5.digest bytes := by
    unfold Md5.digest
    dsimp only
    rw [List.flatMap_cons]
    exact ⟨_, List.mem_append_left _ (List.mem_map.2 ⟨0, by decide, rfl⟩)⟩
  rw [Md5.hex, List.flatMap_eq_nil_iff] at h
  exact (hexDigits_of_lt byte.toNat_lt).1 (h byte hbyte)

section ShortHash
variable {t hash : Text} {length : Int}

theorem shortHash_eq_ok_iff : shortHash t length = .ok hash ↔
    ∃ bytes, Utf8.encode .strict t = .ok bytes ∧ (Md5.hex bytes).take length.toNat = hash := by
  unfold shortHash
  cases Utf8.encode .strict t <;> simp [Except.map]

/-- Only a text without surrogates can be hashed. -/
theorem exists_shortHash_iff : (∃ hash, shortHash t length = .ok hash) ↔ Utf8.IsEncodable t := by
  rw [← Utf8.exists_encode_strict_iff]
  simp only [shortHash_eq_ok_iff]
  exact ⟨fun ⟨_, bytes, h, _⟩ => ⟨bytes, h⟩, fun ⟨bytes, h⟩ => ⟨_, bytes, h, rfl⟩⟩

theorem isPlain_of_mem_shortHash (h : shortHash t length = .ok hash) {c : Code} (hc : c ∈ hash) :
    isPlain c = true := by
  obtain ⟨bytes, -, rfl⟩ := shortHash_eq_ok_iff.1 h
  obtain ⟨byte, -, hc⟩ := List.mem_flatMap.1 (List.mem_of_mem_take hc)
  exact (hexDigits_of_lt byte.toNat_lt).2 c hc

theorem ne_nil_of_shortHash (h : shortHash t length = .ok hash) (hlength : 0 < length) :
    hash ≠ [] := by
  obtain ⟨bytes, -, rfl⟩ := shortHash_eq_ok_iff.1 h
  obtain ⟨c, rest, heq⟩ := List.exists_cons_of_ne_nil (hex_ne_nil bytes)
  obtain ⟨n, hn⟩ : ∃ n, length.toNat = n + 1 := ⟨length.toNat - 1, by omega⟩
  rw [heq, hn, List.take_succ_cons]
  exact List.cons_ne_nil _ _

end ShortHash

/-! ## The rule for the place in a document -/

/-- The hash of a chain of tags, empty for one that cannot be hashed. -/
def chainHash (settings : Settings) (chain : List Text) : Text :=
  ((shortHash (Markup.chainText chain) settings.domHashLength.val).toOption).getD []

/-- The name that the rule for the place in a document gives to a chain of tags. -/
def chainName (settings : Settings) (chain : List Text) : Text :=
  compose defaultSeparator [sanitize (settings.label.take labelLimit),
    abbreviate (chain.filter fun tag => lower tag ∉ unspecificTags)
      settings.abbreviationLength.val,
    if (Markup.chainText chain).isEmpty then [] else chainHash settings chain]

section Chain
variable {context context' : Context} {settings : Settings} {chain : List Text}

theorem shortHash_chainText (settings : Settings)
    (h : Utf8.IsEncodable (Markup.chainText chain)) :
    shortHash (Markup.chainText chain) settings.domHashLength.val =
      .ok (chainHash settings chain) := by
  obtain ⟨hash, hhash⟩ := exists_shortHash_iff.2 h
  rw [chainHash, hhash]
  rfl

theorem generate_beta (context : Context) (settings : Settings) (today : Date) :
    Rule.beta.generate context settings today = .ok (chainName settings context.chain) := by
  have hhash := shortHash_chainText settings
    (Markup.isEncodable_chainText_ancestors context.document context.offset)
  have hplace : Segment.domHash.generate context settings today =
      .ok (if (Markup.chainText context.chain).isEmpty then []
        else chainHash settings context.chain) := by
    unfold Segment.generate
    dsimp only
    split
    · rfl
    · exact hhash
  exact Rule.generate_eq_ok_iff.2
    ⟨_, .cons rfl (.cons rfl (.cons hplace .nil)), rfl⟩

/-- The name depends on the document only through the tags around the place. -/
theorem generate_beta_congr (h : context'.chain = context.chain)
    (settings : Settings) (today today' : Date) :
    Rule.beta.generate context' settings today' = Rule.beta.generate context settings today := by
  rw [generate_beta, generate_beta, h]

/-- The name for a chain of plain tags is the name of a class. -/
theorem isClassName_chainName (hplain : ∀ tag ∈ chain, ∀ c ∈ tag, isPlain c = true)
    (hencodable : Utf8.IsEncodable (Markup.chainText chain)) (h : Markup.chainText chain ≠ [])
    (settings : Settings) : Markup.IsClassName (chainName settings chain) := by
  have hhash := shortHash_chainText settings hencodable
  rw [chainName, if_neg (by simpa using h), compose]
  have hne : chainHash settings chain ≠ [] := by
    have := settings.domHashLength.least_le
    exact ne_nil_of_shortHash hhash (by omega)
  constructor
  · refine join_ne_nil (List.mem_filter.2 ⟨?_, by simpa using hne⟩) hne
    simp
  · intro c hc
    rcases mem_join hc with hc | ⟨part, hpart, hc⟩
    · obtain rfl : c = '-' := by simpa [defaultSeparator] using hc
      decide
    · have hpart := (List.mem_filter.1 hpart).1
      simp only [List.mem_cons, List.not_mem_nil, or_false] at hpart
      rcases hpart with rfl | rfl | rfl
      · exact isPlain_of_mem_sanitize hc
      · exact isPlain_of_mem_abbreviate
          (fun segment hsegment => hplain segment (List.mem_filter.1 hsegment).1) hc
      · exact isPlain_of_mem_shortHash hhash hc

/-- The name for a place with a tag is the name of a class. -/
theorem isClassName_chainName_chain (h : Markup.chainText context.chain ≠ [])
    (settings : Settings) : Markup.IsClassName (chainName settings context.chain) :=
  isClassName_chainName (fun _ htag => Markup.isPlain_of_mem_ancestors htag)
    (Markup.isEncodable_chainText_ancestors context.document context.offset) h settings

end Chain

end Naming
end MarkupNaming

import RowServe.CodePoint.Property
import RowServe.CodePoint.Script

/-!
# Places to cut a text

The classes of code points that decide where a text can be cut into clusters, words and
sentences. In each of the three partitions a code point has one class; the classes that
only say that a code point is in none of the others have no set.

Results:

* `classOf?_of_mem`: in each partition, every name of a class finds the set of that class.
-/

namespace RowServe.CodePoint

/-! ## Clusters -/

/-- The joiner of emoji. -/
def zeroWidthJoiner : CodeSet := .single 0x200D

/-- What belongs to the cluster before it. -/
def clusterExtend : CodeSet := graphemeExtend.union emojiModifier

/-- What belongs to the cluster behind it. -/
def clusterPrepend : CodeSet :=
  prependedConcatenationMark.union
    (ofText "D4E 111C2-111C3 113D1 1193F 11941 11A3A 11A84-11A89 11D46 11F02")

/-- Where a text is cut on both sides. -/
def clusterControl : CodeSet :=
  ((category ["Zl", "Zp", "Cc", "Cf"]).union ((category ["Cn"]).inter defaultIgnorable)).diff
    (.unions [clusterExtend, .single 0xA, .single 0xD, zeroWidthJoiner, prependedConcatenationMark])

/-- Marks with a width of their own that belong to the cluster before them. -/
def clusterSpacing : CodeSet :=
  ((category ["Mc"]).union (ofText "E33 EB3")).diff
    (clusterExtend.union (ofText "
    102B-102C 1038 1062-1064 1067-106D 1083 1087-108C 108F 109A-109C 1A61 1A63-1A64 AA7B AA7D
    11720-11721"))

/-- Syllables without a final consonant. -/
def openSyllable : CodeSet :=
  .ofRanges ((List.range 399).map fun n => (0xAC00 + 28 * n, 0xAC00 + 28 * n))

/-- Syllables with a final consonant. -/
def closedSyllable : CodeSet := (CodeSet.range 0xAC00 0xD7A3).diff openSyllable

/-- The classes of the cluster partition. -/
def clusterClasses : List (List String × CodeSet) :=
  [(["cr"], .single 0xD), (["lf"], .single 0xA), (["cn", "control"], clusterControl),
   (["ex", "extend"], clusterExtend), (["zwj"], zeroWidthJoiner),
   (["pp", "prepend"], clusterPrepend), (["sm", "spacingmark"], clusterSpacing),
   (["ri", "regionalindicator"], regionalIndicator), (["l"], ofText "1100-115F A960-A97C"),
   (["v"], ofText "1160-11A7 D7B0-D7C6 16D63 16D67-16D6A"), (["t"], ofText "11A8-11FF D7CB-D7FB"),
   (["lv"], openSyllable), (["lvt"], closedSyllable)]

/-! ## Words -/

/-- What belongs to the character before it, in words. -/
def wordExtend : CodeSet := (graphemeExtend.union (category ["Mc"])).union emojiModifier

/-- The syllables of one script, with what is written among them. -/
def katakana : CodeSet :=
  ((inScript "Kana").union (ofText "3031-3035 309B-309C 30A0 30FC FF70")).diff wordExtend

/-- The letters that may stand before a quotation mark inside a word. -/
def hebrewLetter : CodeSet := (inScript "Hebr").inter (category ["Lo"])

/-- Scripts that leave no space between words. -/
def unspacedScripts : List String :=
  ["Hira", "Thai", "Laoo", "Mymr", "Khmr", "Tale", "Talu", "Lana", "Tavt", "Ahom"]

/-- The letters of words that spaces keep apart. -/
def wordLetter : CodeSet :=
  (alphabetic.diff (.unions ([ideographic, katakana, hebrewLetter, wordExtend, category ["Nd"]] ++
    unspacedScripts.map inScript))).union (ofText "
    2C2-2C5 2D2-2D7 2DE-2DF 2E5-2EB 2ED 2EF-2FF 55A-55C 55E 58A 5F3 A708-A716 A720-A721 A789-A78A
    AB5B")

/-- The classes of the word partition. -/
def wordClasses : List (List String × CodeSet) :=
  [(["cr"], .single 0xD), (["lf"], .single 0xA), (["nl", "newline"], ofText "B-C 85 2028-2029"),
   (["extend"], wordExtend), (["zwj"], zeroWidthJoiner),
   (["fo", "format"], (category ["Cf"]).diff (wordExtend.union (ofText "200B 200D"))),
   (["ka", "katakana"], katakana), (["hl", "hebrewletter"], hebrewLetter),
   (["le", "aletter"], wordLetter), (["sq", "singlequote"], .single 0x27),
   (["dq", "doublequote"], .single 0x22),
   (["mb", "midnumlet"], ofText "2E 2018-2019 2024 FE52 FF07 FF0E"),
   (["ml", "midletter"], ofText "3A B7 387 55F 5F4 2027 FE13 FE55 FF1A"),
   (["mn", "midnum"],
    ofText "2C 3B 37E 589 60C-60D 66C 7F8 2044 FE10 FE14 FE50 FE54 FF0C FF1B"),
   (["nu", "numeric"], (category ["Nd"]).union (.single 0x66B)),
   (["ex", "extendnumlet"], (category ["Pc"]).union (.single 0x202F)),
   (["ri", "regionalindicator"], regionalIndicator),
   (["wsegspace"], ofText "20 1680 2000-2006 2008-200A 205F 3000")]

/-! ## Sentences -/

/-- What belongs to the character before it, in sentences. -/
def sentenceExtend : CodeSet := wordExtend.union zeroWidthJoiner

/-- Letters of one script whose cases do not mark the start of a sentence. -/
def uncasedLetter : CodeSet := ofText "10D0-10FA 10FD-10FF 1C90-1CBA 1CBD-1CBF"

/-- Small letters. -/
def sentenceLower : CodeSet := lowercase.diff (sentenceExtend.union uncasedLetter)

/-- Letters that may start a sentence. -/
def sentenceUpper : CodeSet := (uppercase.union (category ["Lt"])).diff uncasedLetter

/-- The classes of the sentence partition. -/
def sentenceClasses : List (List String × CodeSet) :=
  [(["cr"], .single 0xD), (["lf"], .single 0xA), (["se", "sep"], ofText "85 2028-2029"),
   (["ex", "extend"], sentenceExtend), (["fo", "format"], (category ["Cf"]).diff sentenceExtend),
   (["sp"], whiteSpace.diff (ofText "A D 85 2028-2029")), (["lo", "lower"], sentenceLower),
   (["up", "upper"], sentenceUpper),
   (["le", "oletter"],
    (alphabetic.union (.single 0x5F3)).diff
      (.unions [sentenceLower, sentenceUpper, sentenceExtend])),
   (["nu", "numeric"], (category ["Nd"]).union (.range 0x66B 0x66C)),
   (["at", "aterm"], ofText "2E 2024 FE52 FF0E"),
   (["st", "sterm"], sentenceTerminal.diff (ofText "2E 2024 FE52 FF0E")),
   (["sc", "scontinue"], ofText "
    2C-2D 3A 55D 60C-60D 7F8 1802 1808 2013-2014 3001 FE10-FE11 FE13 FE31-FE32 FE50-FE51 FE55
    FE58 FE63 FF0C-FF0D FF1A FF64"),
   (["cl", "close"],
    (((category ["Ps", "Pe", "Pi", "Pf"]).union quotationMark).diff (ofText "FF02 FF07")).union
      (ofText "275B-2760 2E00-2E01 2E06-2E08 2E0B 1F676-1F678"))]

/-! ## Look-up -/

/-- The set of a class name in a partition. -/
def classOf? (classes : List (List String × CodeSet)) (name : String) : Option CodeSet :=
  (classes.find? fun entry => entry.1.contains name).map (·.2)

/-- The set of a class of the cluster partition. -/
def clusterBreak? (name : String) : Option CodeSet := classOf? clusterClasses name

/-- The set of a class of the word partition. -/
def wordBreak? (name : String) : Option CodeSet := classOf? wordClasses name

/-- The set of a class of the sentence partition. -/
def sentenceBreak? (name : String) : Option CodeSet := classOf? sentenceClasses name

theorem classNames_nodup {classes : List (List String × CodeSet)}
    (h : classes ∈ [clusterClasses, wordClasses, sentenceClasses]) :
    (classes.flatMap (·.1)).Nodup := by
  revert classes
  decide +kernel

theorem classOf?_of_mem {classes : List (List String × CodeSet)}
    (h : classes ∈ [clusterClasses, wordClasses, sentenceClasses])
    {entry : List String × CodeSet} (he : entry ∈ classes) {name : String}
    (hname : name ∈ entry.1) : classOf? classes name = some entry.2 := by
  have once := classNames_nodup h
  obtain ⟨before, behind, rfl⟩ := List.append_of_mem he
  rw [List.flatMap_append, List.flatMap_cons, List.nodup_append] at once
  obtain ⟨_, _, hapart⟩ := once
  have hfound : (before ++ entry :: behind).find? (fun e => e.1.contains name) = some entry := by
    refine List.find?_eq_some_iff_append.mpr ⟨by simpa using hname, before, behind, rfl, ?_⟩
    intro e hbefore
    have hother : name ∉ e.1 := fun h =>
      hapart name (List.mem_flatMap.mpr ⟨e, hbefore, h⟩) name
        (List.mem_append.mpr (.inl hname)) rfl
    simpa using hother
  rw [classOf?, hfound]
  rfl

end RowServe.CodePoint

import RowServe.CodePoint.Category

/-!
# Letters, words and identifiers

The properties that say what a letter is, which case it has, and which code points make
up words and identifiers.

Results:

* `isWordChar_of_lt`: of ASCII, words have the letters, the digits and the underscore.
-/

namespace RowServe.CodePoint

/-! ## Letters -/

/-- Code points that count as alphabetic without being letters or letter numbers. -/
def otherAlphabetic : CodeSet := ofText "
  345 363-36F 5B0-5BD 5BF 5C1-5C2 5C4-5C5 5C7 610-61A 64B-657 659-65F 670 6D6-6DC 6E1-6E4 6E7-6E8
  6ED 711 730-73F 7A6-7B0 816-817 81B-823 825-827 829-82C 897 8D4-8DF 8E3-8E9 8F0-903 93A-93B
  93E-94C 94E-94F 955-957 962-963 981-983 9BE-9C4 9C7-9C8 9CB-9CC 9D7 9E2-9E3 A01-A03 A3E-A42
  A47-A48 A4B-A4C A51 A70-A71 A75 A81-A83 ABE-AC5 AC7-AC9 ACB-ACC AE2-AE3 AFA-AFC B01-B03 B3E-B44
  B47-B48 B4B-B4C B56-B57 B62-B63 B82 BBE-BC2 BC6-BC8 BCA-BCC BD7 C00-C04 C3E-C44 C46-C48 C4A-C4C
  C55-C56 C62-C63 C81-C83 CBE-CC4 CC6-CC8 CCA-CCC CD5-CD6 CE2-CE3 CF3 D00-D03 D3E-D44 D46-D48
  D4A-D4C D57 D62-D63 D81-D83 DCF-DD4 DD6 DD8-DDF DF2-DF3 E31 E34-E3A E4D EB1 EB4-EB9 EBB-EBC ECD
  F71-F83 F8D-F97 F99-FBC 102B-1036 1038 103B-103E 1056-1059 105E-1060 1062-1064 1067-106D
  1071-1074 1082-108D 108F 109A-109D 1712-1713 1732-1733 1752-1753 1772-1773 17B6-17C8 1885-1886
  18A9 1920-192B 1930-1938 1A17-1A1B 1A55-1A5E 1A61-1A74 1ABF-1AC0 1ACC-1ACE 1B00-1B04 1B35-1B43
  1B80-1B82 1BA1-1BA9 1BAC-1BAD 1BE7-1BF1 1C24-1C36 1DD3-1DF4 24B6-24E9 2DE0-2DFF A674-A67B
  A69E-A69F A802 A80B A823-A827 A880-A881 A8B4-A8C3 A8C5 A8FF A926-A92A A947-A952 A980-A983
  A9B4-A9BF A9E5 AA29-AA36 AA43 AA4C-AA4D AA7B-AA7D AAB0 AAB2-AAB4 AAB7-AAB8 AABE AAEB-AAEF AAF5
  ABE3-ABEA FB1E 10376-1037A 10A01-10A03 10A05-10A06 10A0C-10A0F 10D24-10D27 10D69 10EAB-10EAC
  10EFC 11000-11002 11038-11045 11073-11074 11080-11082 110B0-110B8 110C2 11100-11102 11127-11132
  11145-11146 11180-11182 111B3-111BF 111CE-111CF 1122C-11234 11237 1123E 11241 112DF-112E8
  11300-11303 1133E-11344 11347-11348 1134B-1134C 11357 11362-11363 113B8-113C0 113C2 113C5
  113C7-113CA 113CC-113CD 11435-11441 11443-11445 114B0-114C1 115AF-115B5 115B8-115BE 115DC-115DD
  11630-1163E 11640 116AB-116B5 1171D-1172A 1182C-11838 11930-11935 11937-11938 1193B-1193C 11940
  11942 119D1-119D7 119DA-119DF 119E4 11A01-11A0A 11A35-11A39 11A3B-11A3E 11A51-11A5B 11A8A-11A97
  11C2F-11C36 11C38-11C3E 11C92-11CA7 11CA9-11CB6 11D31-11D36 11D3A 11D3C-11D3D 11D3F-11D41 11D43
  11D47 11D8A-11D8E 11D90-11D91 11D93-11D96 11EF3-11EF6 11F00-11F01 11F03 11F34-11F3A 11F3E-11F40
  1611E-1612E 16F4F 16F51-16F87 16F8F-16F92 16FF0-16FF1 1BC9E 1E000-1E006 1E008-1E018 1E01B-1E021
  1E023-1E024 1E026-1E02A 1E08F 1E947 1F130-1F149 1F150-1F169 1F170-1F189"

/-- Code points that count as lower case without that category. -/
def otherLowercase : CodeSet := ofText "
  AA BA 2B0-2B8 2C0-2C1 2E0-2E4 345 37A 10FC 1D2C-1D6A 1D78 1D9B-1DBF 2071 207F 2090-209C
  2170-217F 24D0-24E9 2C7C-2C7D A69C-A69D A770 A7F2-A7F4 A7F8-A7F9 AB5C-AB5F AB69 10780
  10783-10785 10787-107B0 107B2-107BA 1E030-1E06D"

/-- Code points that count as upper case without that category. -/
def otherUppercase : CodeSet := ofText "2160-216F 24B6-24CF 1F130-1F149 1F150-1F169 1F170-1F189"

/-- Everything alphabetic. -/
def alphabetic : CodeSet := (letter.union (category ["Nl"])).union otherAlphabetic

/-- Everything in lower case. -/
def lowercase : CodeSet := (category ["Ll"]).union otherLowercase

/-- Everything in upper case. -/
def uppercase : CodeSet := (category ["Lu"]).union otherUppercase

/-- Everything that has a case. -/
def cased : CodeSet := (lowercase.union uppercase).union (category ["Lt"])

/-- What does not interrupt a word when its case is looked at. -/
def caseIgnorable : CodeSet :=
  (category ["Mn", "Me", "Cf", "Lm", "Sk"]).union (ofText "
    27 2E 3A B7 387 55F 5F4 2018-2019 2024 2027 FE13 FE52 FE55 FF07 FF0E FF1A")

/-! ## Case changes

Upper and title case letters change when they become small, and small ones when they
become capital, apart from the listed exceptions. -/

/-- Where having upper or title case and changing in lower-casing differ. -/
def lowercasedExceptions : CodeSet := ofText "
  3D2-3D4 2102 2107 210B-210D 2110-2112 2115 2119-211D 2124 2128 212C-212D 2130-2131 2133
  213E-213F 2145 1D400-1D419 1D434-1D44D 1D468-1D481 1D49C 1D49E-1D49F 1D4A2 1D4A5-1D4A6
  1D4A9-1D4AC 1D4AE-1D4B5 1D4D0-1D4E9 1D504-1D505 1D507-1D50A 1D50D-1D514 1D516-1D51C 1D538-1D539
  1D53B-1D53E 1D540-1D544 1D546 1D54A-1D550 1D56C-1D585 1D5A0-1D5B9 1D5D4-1D5ED 1D608-1D621
  1D63C-1D655 1D670-1D689 1D6A8-1D6C0 1D6E2-1D6FA 1D71C-1D734 1D756-1D76E 1D790-1D7A8 1D7CA
  1F130-1F149 1F150-1F169 1F170-1F189"

/-- Where having upper or title case and changing in case folding differ. -/
def casefoldedExceptions : CodeSet := ofText "
  B5 DF 149 17F 345 3C2 3D0-3D6 3F0-3F1 3F5 587 13A0-13F5 13F8-13FD 1C80-1C88 1E9A-1E9B 1F80-1F87
  1F90-1F97 1FA0-1FA7 1FB2-1FB4 1FB7 1FC2-1FC4 1FC7 1FF2-1FF4 1FF7 2102 2107 210B-210D 2110-2112
  2115 2119-211D 2124 2128 212C-212D 2130-2131 2133 213E-213F 2145 AB70-ABBF FB00-FB06 FB13-FB17
  1D400-1D419 1D434-1D44D 1D468-1D481 1D49C 1D49E-1D49F 1D4A2 1D4A5-1D4A6 1D4A9-1D4AC 1D4AE-1D4B5
  1D4D0-1D4E9 1D504-1D505 1D507-1D50A 1D50D-1D514 1D516-1D51C 1D538-1D539 1D53B-1D53E 1D540-1D544
  1D546 1D54A-1D550 1D56C-1D585 1D5A0-1D5B9 1D5D4-1D5ED 1D608-1D621 1D63C-1D655 1D670-1D689
  1D6A8-1D6C0 1D6E2-1D6FA 1D71C-1D734 1D756-1D76E 1D790-1D7A8 1D7CA 1F130-1F149 1F150-1F169
  1F170-1F189"

/-- Where having lower case and changing in title-casing differ. -/
def titlecasedExceptions : CodeSet := ofText "
  AA BA 138 18D 1AA-1AB 1BA 1BE 1C4 1C7 1CA 1F1 221 234-239 255 258 25A 25D-25F 262 267 26D-26E
  270 273-274 276-27C 27E-27F 281 284-286 28D-291 293 295-29C 29F-2B8 2C0-2C1 2E0-2E4 37A 3FC 560
  588 10D0-10FA 10FC-10FF 1D00-1D78 1D7A-1D7C 1D7E-1D8D 1D8F-1DBF 1E9C-1E9D 1E9F 2071 207F
  2090-209C 210A 210E-210F 2113 212F 2134 2139 213C-213D 2146-2149 2C71 2C74 2C77-2C7D 2CE4
  A69C-A69D A730-A731 A770-A778 A78E A795 A7AF A7D3 A7D5 A7F2-A7F4 A7F8-A7FA AB30-AB52 AB54-AB5A
  AB5C-AB69 10780 10783-10785 10787-107B0 107B2-107BA 1D41A-1D433 1D44E-1D454 1D456-1D467
  1D482-1D49B 1D4B6-1D4B9 1D4BB 1D4BD-1D4C3 1D4C5-1D4CF 1D4EA-1D503 1D51E-1D537 1D552-1D56B
  1D586-1D59F 1D5BA-1D5D3 1D5EE-1D607 1D622-1D63B 1D656-1D66F 1D68A-1D6A5 1D6C2-1D6DA 1D6DC-1D6E1
  1D6FC-1D714 1D716-1D71B 1D736-1D74E 1D750-1D755 1D770-1D788 1D78A-1D78F 1D7AA-1D7C2 1D7C4-1D7C9
  1D7CB 1DF00-1DF09 1DF0B-1DF1E 1DF25-1DF2A 1E030-1E06D"

/-- Where having lower or title case and changing in upper-casing differ. -/
def uppercasedExceptions : CodeSet := ofText "
  AA BA 138 18D 1AA-1AB 1BA 1BE 221 234-239 255 258 25A 25D-25F 262 267 26D-26E 270 273-274
  276-27C 27E-27F 281 284-286 28D-291 293 295-29C 29F-2B8 2C0-2C1 2E0-2E4 37A 3FC 560 588 10FC
  1D00-1D78 1D7A-1D7C 1D7E-1D8D 1D8F-1DBF 1E9C-1E9D 1E9F 2071 207F 2090-209C 210A 210E-210F 2113
  212F 2134 2139 213C-213D 2146-2149 2C71 2C74 2C77-2C7D 2CE4 A69C-A69D A730-A731 A770-A778 A78E
  A795 A7AF A7D3 A7D5 A7F2-A7F4 A7F8-A7FA AB30-AB52 AB54-AB5A AB5C-AB69 10780 10783-10785
  10787-107B0 107B2-107BA 1D41A-1D433 1D44E-1D454 1D456-1D467 1D482-1D49B 1D4B6-1D4B9 1D4BB
  1D4BD-1D4C3 1D4C5-1D4CF 1D4EA-1D503 1D51E-1D537 1D552-1D56B 1D586-1D59F 1D5BA-1D5D3 1D5EE-1D607
  1D622-1D63B 1D656-1D66F 1D68A-1D6A5 1D6C2-1D6DA 1D6DC-1D6E1 1D6FC-1D714 1D716-1D71B 1D736-1D74E
  1D750-1D755 1D770-1D788 1D78A-1D78F 1D7AA-1D7C2 1D7C4-1D7C9 1D7CB 1DF00-1DF09 1DF0B-1DF1E
  1DF25-1DF2A 1E030-1E06D"

/-- What lower-casing changes. -/
def changesWhenLowercased : CodeSet :=
  (uppercase.union (category ["Lt"])).symmDiff lowercasedExceptions

/-- What case folding changes. -/
def changesWhenCasefolded : CodeSet :=
  (uppercase.union (category ["Lt"])).symmDiff casefoldedExceptions

/-- What title-casing changes. -/
def changesWhenTitlecased : CodeSet := lowercase.symmDiff titlecasedExceptions

/-- What upper-casing changes. -/
def changesWhenUppercased : CodeSet :=
  (lowercase.union (category ["Lt"])).symmDiff uppercasedExceptions

/-- What some change of case changes. -/
def changesWhenCasemapped : CodeSet :=
  (changesWhenLowercased.union changesWhenTitlecased).union changesWhenUppercased

/-! ## Words -/

/-- Every white space character. -/
def whiteSpace : CodeSet := ofText "9-D 20 85 A0 1680 2000-200A 2028-2029 202F 205F 3000"

/-- The controls that join letters or keep them apart. -/
def joinControl : CodeSet := .range 0x200C 0x200D

/-- The code points behind those of ASCII. -/
def beyondAscii : CodeSet := .range 128 CodeSet.lastCode

/-- The ASCII characters of words. -/
def asciiWord : CodeSet := .ofRanges [(48, 57), (65, 90), (95, 95), (97, 122)]

/-- The decimal digits, those of ASCII first. -/
def decimal : CodeSet := (CodeSet.range 48 57).union ((category ["Nd"]).inter beyondAscii)

/-- What words are made of: alphabetic code points, marks, decimal digits, connecting
    punctuation and the joining controls. The characters of ASCII among them stand first. -/
def word : CodeSet :=
  asciiWord.union
    ((((alphabetic.union mark).union (category ["Nd"])).union
      ((category ["Pc"]).union joinControl)).inter beyondAscii)

/-- Is the character part of a word? -/
def isWordChar (c : Char) : Bool := word.containsChar c

/-- Is the character alphabetic? -/
def isAlphabetic (c : Char) : Bool := alphabetic.containsChar c

/-- What is alphabetic or a number of any kind. -/
def alphanumeric : CodeSet := alphabetic.union (category ["Nd", "Nl", "No"])

/-- Is the character alphabetic or a number of any kind? -/
def isAlphanumeric (c : Char) : Bool := alphanumeric.containsChar c

/-! ## Identifiers -/

/-- Punctuation that is reserved for syntax. -/
def patternSyntax : CodeSet := ofText "
  21-2F 3A-40 5B-5E 60 7B-7E A1-A7 A9 AB-AC AE B0-B1 B6 BB BF D7 F7 2010-2027 2030-203E 2041-2053
  2055-205E 2190-245F 2500-2775 2794-2BFF 2E00-2E7F 3001-3003 3008-3020 3030 FD3E-FD3F FE45-FE46"

/-- White space that syntax may use. -/
def patternWhiteSpace : CodeSet := ofText "9-D 20 85 200E-200F 2028-2029"

/-- What syntax reserves. -/
def reserved : CodeSet := patternSyntax.union patternWhiteSpace

/-- Code points that may start an identifier without being letters. -/
def otherIdStart : CodeSet := ofText "1885-1886 2118 212E 309B-309C"

/-- Code points that may continue an identifier without being letters, marks, digits or
    connecting punctuation. -/
def otherIdContinue : CodeSet := ofText "B7 387 1369-1371 19DA 200C-200D 30FB FF65"

/-- What may start an identifier. -/
def idStart : CodeSet :=
  ((letter.union (category ["Nl"])).union otherIdStart).diff reserved

/-- What may continue an identifier. -/
def idContinue : CodeSet :=
  ((idStart.union (category ["Mn", "Mc", "Nd", "Pc"])).union otherIdContinue).diff reserved

/-- What may start an identifier in every normal form. -/
def xidStart : CodeSet := idStart.diff (ofText "
    37A E33 EB3 309B-309C FC5E-FC63 FDFA-FDFB FE70 FE72 FE74 FE76 FE78 FE7A FE7C FE7E FF9E-FF9F")

/-- What may continue an identifier in every normal form. -/
def xidContinue : CodeSet := idContinue.diff (ofText "
    37A 309B-309C FC5E-FC63 FDFA-FDFB FE70 FE72 FE74 FE76 FE78 FE7A FE7C FE7E")

theorem isWordChar_of_lt {c : Char} (h : c.toNat < 128) :
    isWordChar c = (c.isAlphanum || c == '_') := by
  have outside : beyondAscii.contains c.toNat = false := by
    simp only [beyondAscii, CodeSet.contains_range, Bool.and_eq_false_iff, decide_eq_false_iff_not]
    exact Or.inl (by omega)
  simp only [isWordChar, CodeSet.containsChar, word, CodeSet.contains_union,
    CodeSet.contains_inter, outside, Bool.and_false, Bool.or_false, asciiWord,
    CodeSet.contains_ofRanges]
  have all : ∀ n : Fin 128, ([(48, 57), (65, 90), (95, 95), (97, 122)].any
      fun (x : Nat × Nat) => decide (x.1 ≤ n.val) && decide (n.val ≤ x.2)) =
        ((Char.ofNat n.val).isAlphanum || Char.ofNat n.val == '_') := by decide
  simpa using all ⟨c.toNat, h⟩

end RowServe.CodePoint

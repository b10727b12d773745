/-!
# Script extensions

A character used with several scripts extends each of them. The ranges here are the
differences from the script table: `scriptsGained` is added to a script and `scriptsLost`
taken from it. Ranges are hexadecimal, and every table is that of Unicode 16.0.
-/

namespace AttributeRelease.Unicode

/-- Characters that extend a script and have another script. -/
def scriptsGained : List (List String × String) := [
  (["adlm", "adlam"],
    "61F 640 204F 2E41"),
  (["aghb", "caucasianalbanian"],
    "304 331 35E"),
  (["arab", "arabic"],
    "60C 61B 61F 640 64B-655 670 204F 2E41 FD3E-FD3F 102E0-102FB"),
  (["armn", "armenian"],
    "308"),
  (["avst", "avestan"],
    "B7 2E30-2E31"),
  (["beng", "bengali"],
    "2BC 951-952 964-965 1CD0 1CD2 1CD5-1CD6 1CD8 1CE1 1CEA 1CED 1CF2 1CF5-1CF7 A8F1"),
  (["bopo", "bopomofo"],
    "2C7 2C9-2CB 2D9 3001-3003 3008-3011 3013-301F 302A-302D 3030 3037 30FB FE45-FE46
     FF61-FF65"),
  (["bugi", "buginese"],
    "A9CF"),
  (["buhd", "buhid"],
    "1735-1736"),
  (["cakm", "chakma"],
    "9E6-9EF 1040-1049"),
  (["cari", "carian"],
    "B7 205A 205D 2E31"),
  (["cher", "cherokee"],
    "300-302 304 30B-30C 323-324 330-331"),
  (["copt", "qaac", "coptic"],
    "B7 300 304-305 307 374-375 2E17 102E0-102FB"),
  (["cpmn", "cyprominoan"],
    "10100-10101"),
  (["cprt", "cypriot"],
    "10100-10102 10107-10133 10137-1013F"),
  (["cyrl", "cyrillic"],
    "2BC 300-302 304 306 308 30B 311 485-486 1DF8 2E43"),
  (["deva", "devanagari"],
    "2BC 951-952 964-965 1CD0-1CF6 1CF8-1CF9 20F0 A830-A839"),
  (["dogr", "dogra"],
    "964-96F A830-A839"),
  (["dupl", "duployan"],
    "B7 307-308 30A 323-324 2E3C 1BCA0-1BCA3"),
  (["elba", "elbasan"],
    "B7 305"),
  (["ethi", "ethiopic"],
    "30E"),
  (["gara", "garay"],
    "60C 61B 61F"),
  (["geor", "georgian"],
    "B7 589 10FB 205A 2E31"),
  (["glag", "glagolitic"],
    "B7 303 305 484 487 589 10FB 205A 2E43 A66F"),
  (["gong", "gunjalagondi"],
    "B7 964-965"),
  (["gonm", "masaramgondi"],
    "964-965"),
  (["goth", "gothic"],
    "B7 304-305 308 331"),
  (["gran", "grantha"],
    "951-952 964-965 BE6-BF3 1CD0 1CD2-1CD3 1CF2-1CF4 1CF8-1CF9 20F0 1133B 11FD0-11FD1 11FD3"),
  (["grek", "greek"],
    "B7 300-301 304 306 308 313 342 345 374 1DC0-1DC1 205D"),
  (["gujr", "gujarati"],
    "951-952 964-965 A830-A839"),
  (["gukh", "gurungkhema"],
    "965"),
  (["guru", "gurmukhi"],
    "951-952 964-965 A830-A839"),
  (["han", "hani"],
    "B7 2FF0-2FFF 3001-3003 3006 3008-3011 3013-301F 302A-302D 3030 3037 303C-303F 30FB
     3190-319F 31C0-31E5 31EF 3220-3247 3280-32B0 32C0-32CB 32FF 3358-3370 337B-337F 33E0-33FE
     A700-A707 FE45-FE46 FF61-FF65 1D360-1D371 1F250-1F251"),
  (["hang", "hangul"],
    "3001-3003 3008-3011 3013-301F 3030 3037 30FB FE45-FE46 FF61-FF65"),
  (["hano", "hanunoo"],
    "1735-1736"),
  (["hebr", "hebrew"],
    "307-308"),
  (["hira", "hiragana"],
    "3001-3003 3008-3011 3013-301F 3030-3035 3037 303C-303D 3099-309C 30A0 30FB-30FC FE45-FE46
     FF61-FF65 FF70 FF9E-FF9F"),
  (["hung", "oldhungarian"],
    "205A 205D 2E31 2E41"),
  (["java", "javanese"],
    "A9CF"),
  (["kali", "kayahli"],
    "A92E"),
  (["kana", "katakana"],
    "305 323 3001-3003 3008-3011 3013-301F 3030-3035 3037 303C-303D 3099-309C 30A0 30FB-30FC
     FE45-FE46 FF61-FF65 FF70 FF9E-FF9F"),
  (["khoj", "khojki"],
    "AE6-AEF A830-A839"),
  (["knda", "kannada"],
    "951-952 964-965 1CD0 1CD2-1CD3 1CDA 1CF2 1CF4 A830-A835"),
  (["kthi", "kaithi"],
    "966-96F 2E31 A830-A839"),
  (["latn", "latin"],
    "B7 2BC 2C7 2C9-2CB 2CD 2D7 2D9 300-30E 310-311 313 320 323-325 32D-32E 330-331 358 35E
     363-36F 485-486 951-952 10FB 1DF8 202F 20F0 2E17 A700-A707 A92E"),
  (["limb", "limbu"],
    "965"),
  (["lina", "lineara"],
    "10107-10133"),
  (["linb", "linearb"],
    "10100-10102 10107-10133 10137-1013F"),
  (["lisu"],
    "2BC 2CD 300A-300B"),
  (["lyci", "lycian"],
    "205A"),
  (["lydi", "lydian"],
    "B7 2E31"),
  (["mahj", "mahajani"],
    "B7 964-96F A830-A839"),
  (["mand", "mandaic"],
    "640"),
  (["mani", "manichaean"],
    "640"),
  (["mero", "meroitichieroglyphs"],
    "205D"),
  (["mlym", "malayalam"],
    "951-952 964-965 1CDA 1CF2 A830-A832"),
  (["modi"],
    "A830-A839"),
  (["mong", "mongolian"],
    "1802-1803 1805 202F 3001-3002 3008-300B"),
  (["mult", "multani"],
    "A66-A6F"),
  (["mymr", "myanmar"],
    "A92E"),
  (["nand", "nandinagari"],
    "964-965 CE6-CEF 1CE9 1CF2 1CFA A830-A835"),
  (["nko", "nkoo"],
    "60C 61B 61F FD3E-FD3F"),
  (["onao", "olonal"],
    "964-965"),
  (["orkh", "oldturkic"],
    "205A 2E30"),
  (["orya", "oriya"],
    "951-952 964-965 1CDA 1CF2"),
  (["osge", "osage"],
    "301 304 30B 358"),
  (["ougr", "olduyghur"],
    "640 10AF2"),
  (["perm", "oldpermic"],
    "B7 300 306-308 313 483"),
  (["phag", "phagspa"],
    "1802-1803 1805 202F 3002"),
  (["phlp", "psalterpahlavi"],
    "640"),
  (["rohg", "hanifirohingya"],
    "60C 61B 61F 640 6D4"),
  (["runr", "runic"],
    "16EB-16ED"),
  (["samr", "samaritan"],
    "2E31"),
  (["shaw", "shavian"],
    "B7"),
  (["shrd", "sharada"],
    "951 1CD7 1CD9 1CDC-1CDD 1CE0 A830-A835 A838"),
  (["sind", "khudawadi"],
    "964-965 A830-A839"),
  (["sinh", "sinhala"],
    "964-965 1CF2"),
  (["sogd", "sogdian"],
    "640"),
  (["sunu", "sunuwar"],
    "300-301 303 30D 310 32D 331"),
  (["sylo", "sylotinagri"],
    "964-965 9E6-9EF"),
  (["syrc", "syriac"],
    "303-304 307-308 30A 320 323-325 32D-32E 330 60C 61B-61C 61F 640 64B-655 670 1DF8 1DFA"),
  (["tagb", "tagbanwa"],
    "1735-1736"),
  (["takr", "takri"],
    "964-965 A830-A839"),
  (["tale", "taile"],
    "300-301 307-308 30C 1040-1049"),
  (["taml", "tamil"],
    "951-952 964-965 1CDA A8F3 11301 11303 1133B-1133C"),
  (["tang", "tangut"],
    "2FF0-2FFF 31EF"),
  (["telu", "telugu"],
    "951-952 964-965 1CDA 1CF2"),
  (["tfng", "tifinagh"],
    "302 304 307 309"),
  (["tglg", "tagalog"],
    "1735-1736"),
  (["thaa", "thaana"],
    "60C 61B-61C 61F 660-669 FDF2 FDFD"),
  (["thai"],
    "2BC 2D7 303 331"),
  (["tibt", "tibetan"],
    "3008-300B"),
  (["tirh", "tirhuta"],
    "951-952 964-965 1CF2 A830-A839"),
  (["todr", "todhri"],
    "301 304 307 311 313 35E"),
  (["toto"],
    "2BC"),
  (["tutg", "tulutigalari"],
    "CE6-CEF 1CF2 1CF4 A830-A835 A8F1"),
  (["yezi", "yezidi"],
    "60C 61B 61F 660-669"),
  (["yi", "yiii"],
    "3001-3002 3008-3011 3014-301B 30FB FF61-FF65")]

/-- Characters that have a script and do not extend it. -/
def scriptsLost : List (List String × String) := [
  (["qaai", "zinh", "inherited"],
    "300-30E 310-311 313 320 323-325 32D-32E 330-331 342 345 358 35E 363-36F 485-486 64B-655
     670 951-952 1CD0-1CD2 1CD4-1CE0 1CE2-1CE8 1CED 1CF4 1CF8-1CF9 1DC0-1DC1 1DF8 1DFA 20F0
     302A-302D 3099-309A 102E0 1133B"),
  (["zyyy", "common"],
    "B7 2BC 2C7 2C9-2CB 2CD 2D7 2D9 374 60C 61B 61F 640 964-965 10FB 16EB-16ED 1735-1736
     1802-1803 1805 1CD3 1CE1 1CE9-1CEC 1CEE-1CF3 1CF5-1CF7 1CFA 202F 204F 205A 205D 2E17
     2E30-2E31 2E3C 2E41 2E43 2FF0-2FFF 3001-3003 3006 3008-3011 3013-301F 3030-3035 3037
     303C-303F 309B-309C 30A0 30FB-30FC 3190-319F 31C0-31E5 31EF 3220-3247 3280-32B0 32C0-32CB
     32FF 3358-3370 337B-337F 33E0-33FE A700-A707 A830-A839 A92E A9CF FD3E-FD3F FE45-FE46
     FF61-FF65 FF70 FF9E-FF9F 10100-10102 10107-10133 10137-1013F 102E1-102FB 1BCA0-1BCA3
     1D360-1D371 1F250-1F251")]

end AttributeRelease.Unicode

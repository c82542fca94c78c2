import FeatureFlags.Pattern.Script

/-!
**The scripts that characters are used in.**

A character that belongs to no single script, and now and then one that does, may be used in a few
scripts and in no others. It then counts for each of them and no longer as common or inherited.

* `scriptUses`: the characters that a script uses besides its own.
* `usedInScript?`: the characters that are used in the script with a given name.
-/

namespace FeatureFlags.CharSet

/-- The scripts that use characters besides their own, by their short names. -/
def scriptUses : List NamedSet := [
  ⟨["adlm"], .ofTexts ["61F 640 204F 2E41"]⟩,
  ⟨["aghb"], .ofTexts ["304 331 35E"]⟩,
  ⟨["arab"], .ofTexts ["60C 61B 61F 640 64B-655 670 204F 2E41 FD3E-FD3F 102E0-102FB"]⟩,
  ⟨["armn"], .ofTexts ["308"]⟩,
  ⟨["avst"], .ofTexts ["B7 2E30-2E31"]⟩,
  ⟨["beng"],
    .ofTexts
      ["2BC 951-952 964-965 1CD0 1CD2 1CD5-1CD6 1CD8 1CE1 1CEA 1CED 1CF2 1CF5-1CF7 A8F1"]⟩,
  ⟨["bopo"],
    .ofTexts
      ["2C7 2C9-2CB 2D9 3001-3003 3008-3011 3013-301F 302A-302D 3030 3037 30FB",
       "FE45-FE46 FF61-FF65"]⟩,
  ⟨["bugi"], .ofTexts ["A9CF"]⟩,
  ⟨["buhd"], .ofTexts ["1735-1736"]⟩,
  ⟨["cakm"], .ofTexts ["9E6-9EF 1040-1049"]⟩,
  ⟨["cari"], .ofTexts ["B7 205A 205D 2E31"]⟩,
  ⟨["cher"], .ofTexts ["300-302 304 30B-30C 323-324 330-331"]⟩,
  ⟨["copt"], .ofTexts ["B7 300 304-305 307 374-375 2E17 102E0-102FB"]⟩,
  ⟨["cpmn"], .ofTexts ["10100-10101"]⟩,
  ⟨["cprt"], .ofTexts ["10100-10102 10107-10133 10137-1013F"]⟩,
  ⟨["cyrl"], .ofTexts ["2BC 300-302 304 306 308 30B 311 485-486 1DF8 2E43"]⟩,
  ⟨["deva"], .ofTexts ["2BC 951-952 964-965 1CD0-1CF6 1CF8-1CF9 20F0 A830-A839"]⟩,
  ⟨["dogr"], .ofTexts ["964-96F A830-A839"]⟩,
  ⟨["dupl"], .ofTexts ["B7 307-308 30A 323-324 2E3C 1BCA0-1BCA3"]⟩,
  ⟨["elba"], .ofTexts ["B7 305"]⟩,
  ⟨["ethi"], .ofTexts ["30E"]⟩,
  ⟨["gara"], .ofTexts ["60C 61B 61F"]⟩,
  ⟨["geor"], .ofTexts ["B7 589 10FB 205A 2E31"]⟩,
  ⟨["glag"], .ofTexts ["B7 303 305 484 487 589 10FB 205A 2E43 A66F"]⟩,
  ⟨["gong"], .ofTexts ["B7 964-965"]⟩,
  ⟨["gonm"], .ofTexts ["964-965"]⟩,
  ⟨["goth"], .ofTexts ["B7 304-305 308 331"]⟩,
  ⟨["gran"],
    .ofTexts
      ["951-952 964-965 BE6-BF3 1CD0 1CD2-1CD3 1CF2-1CF4 1CF8-1CF9 20F0 1133B 11FD0-11FD1 11FD3"]⟩,
  ⟨["grek"], .ofTexts ["B7 300-301 304 306 308 313 342 345 374 1DC0-1DC1 205D"]⟩,
  ⟨["gujr"], .ofTexts ["951-952 964-965 A830-A839"]⟩,
  ⟨["gukh"], .ofTexts ["965"]⟩,
  ⟨["guru"], .ofTexts ["951-952 964-965 A830-A839"]⟩,
  ⟨["hang"], .ofTexts ["3001-3003 3008-3011 3013-301F 3030 3037 30FB FE45-FE46 FF61-FF65"]⟩,
  ⟨["hani"],
    .ofTexts
      ["B7 2FF0-2FFF 3001-3003 3006 3008-3011 3013-301F 302A-302D 3030 3037 303C-303F 30FB",
       "3190-319F 31C0-31E5 31EF 3220-3247 3280-32B0 32C0-32CB 32FF 3358-3370 337B-337F 33E0-33FE",
       "A700-A707 FE45-FE46 FF61-FF65 1D360-1D371 1F250-1F251"]⟩,
  ⟨["hano"], .ofTexts ["1735-1736"]⟩,
  ⟨["hebr"], .ofTexts ["307-308"]⟩,
  ⟨["hira"],
    .ofTexts
      ["3001-3003 3008-3011 3013-301F 3030-3035 3037 303C-303D 3099-309C 30A0 30FB-30FC FE45-FE46",
       "FF61-FF65 FF70 FF9E-FF9F"]⟩,
  ⟨["hung"], .ofTexts ["205A 205D 2E31 2E41"]⟩,
  ⟨["java"], .ofTexts ["A9CF"]⟩,
  ⟨["kali"], .ofTexts ["A92E"]⟩,
  ⟨["kana"],
    .ofTexts
      ["305 323 3001-3003 3008-3011 3013-301F 3030-3035 3037 303C-303D 3099-309C 30A0 30FB-30FC",
       "FE45-FE46 FF61-FF65 FF70 FF9E-FF9F"]⟩,
  ⟨["khoj"], .ofTexts ["AE6-AEF A830-A839"]⟩,
  ⟨["knda"], .ofTexts ["951-952 964-965 1CD0 1CD2-1CD3 1CDA 1CF2 1CF4 A830-A835"]⟩,
  ⟨["kthi"], .ofTexts ["966-96F 2E31 A830-A839"]⟩,
  ⟨["latn"],
    .ofTexts
      ["B7 2BC 2C7 2C9-2CB 2CD 2D7 2D9 300-30E 310-311 313 323-325 32D-32E 330-331 358 35E 363-36F",
       "485-486 951-952 10FB 1DF8 202F 20F0 2E17 A700-A707 A92E"]⟩,
  ⟨["limb"], .ofTexts ["965"]⟩,
  ⟨["lina"], .ofTexts ["10107-10133"]⟩,
  ⟨["linb"], .ofTexts ["10100-10102 10107-10133 10137-1013F"]⟩,
  ⟨["lisu"], .ofTexts ["2BC 2CD 300A-300B"]⟩,
  ⟨["lyci"], .ofTexts ["205A"]⟩,
  ⟨["lydi"], .ofTexts ["B7 2E31"]⟩,
  ⟨["mahj"], .ofTexts ["B7 964-96F A830-A839"]⟩,
  ⟨["mand"], .ofTexts ["640"]⟩,
  ⟨["mani"], .ofTexts ["640"]⟩,
  ⟨["mero"], .ofTexts ["205D"]⟩,
  ⟨["mlym"], .ofTexts ["951-952 964-965 1CDA 1CF2 A830-A832"]⟩,
  ⟨["modi"], .ofTexts ["A830-A839"]⟩,
  ⟨["mong"], .ofTexts ["1802-1803 1805 202F 3001-3002 3008-300B"]⟩,
  ⟨["mult"], .ofTexts ["A66-A6F"]⟩,
  ⟨["mymr"], .ofTexts ["A92E"]⟩,
  ⟨["nand"], .ofTexts ["951 964-965 CE6-CEF 1CE9 1CF2 1CFA A830-A835"]⟩,
  ⟨["newa"], .ofTexts ["951-952 1CD5 1CD7-1CD8 1CE2 1CE9 1CEB 1CED"]⟩,
  ⟨["nkoo"], .ofTexts ["60C 61B 61F FD3E-FD3F"]⟩,
  ⟨["onao"], .ofTexts ["964-965"]⟩,
  ⟨["orkh"], .ofTexts ["205A 2E30"]⟩,
  ⟨["orya"], .ofTexts ["951-952 964-965 1CDA 1CF2"]⟩,
  ⟨["osge"], .ofTexts ["301 304 30B 358"]⟩,
  ⟨["ougr"], .ofTexts ["640 10AF2"]⟩,
  ⟨["perm"], .ofTexts ["B7 300 306-308 313 483"]⟩,
  ⟨["phag"], .ofTexts ["1802-1803 1805 202F 3002"]⟩,
  ⟨["phlp"], .ofTexts ["640"]⟩,
  ⟨["rohg"], .ofTexts ["60C 61B 61F 640 6D4"]⟩,
  ⟨["runr"], .ofTexts ["16EB-16ED"]⟩,
  ⟨["samr"], .ofTexts ["2E31"]⟩,
  ⟨["shaw"], .ofTexts ["B7"]⟩,
  ⟨["shrd"], .ofTexts ["951 1CD7 1CD9 1CDC-1CDD 1CE0 1CEA 1CED A830-A835 A838"]⟩,
  ⟨["sind"], .ofTexts ["964-965 A830-A839"]⟩,
  ⟨["sinh"], .ofTexts ["964-965 1CF2"]⟩,
  ⟨["sogd"], .ofTexts ["640"]⟩,
  ⟨["sunu"], .ofTexts ["300-301 303 30D 310 32D 331"]⟩,
  ⟨["sylo"], .ofTexts ["964-965 9E6-9EF"]⟩,
  ⟨["syrc"],
    .ofTexts
      ["303-304 307-308 30A 323-325 32D-32E 330-331 60C 61B-61C 61F 640 64B-655 670 1DF8 1DFA"]⟩,
  ⟨["tagb"], .ofTexts ["1735-1736"]⟩,
  ⟨["takr"], .ofTexts ["964-965 A830-A839"]⟩,
  ⟨["tale"], .ofTexts ["300-301 307-308 30C 1040-1049"]⟩,
  ⟨["taml"], .ofTexts ["951-952 964-965 1CDA A8F3 11301 11303 1133B-1133C"]⟩,
  ⟨["tang"], .ofTexts ["2FF0-2FFF 31EF"]⟩,
  ⟨["telu"], .ofTexts ["951-952 964-965 1CD5-1CD6 1CD8 1CDA 1CF2"]⟩,
  ⟨["tfng"], .ofTexts ["302 304 306-309 323"]⟩,
  ⟨["tglg"], .ofTexts ["1735-1736"]⟩,
  ⟨["thaa"], .ofTexts ["60C 61B-61C 61F 660-669 FDF2 FDFD"]⟩,
  ⟨["thai"], .ofTexts ["2BC 2D7 303 331"]⟩,
  ⟨["tibt"], .ofTexts ["3008-300B"]⟩,
  ⟨["tirh"], .ofTexts ["951-952 964-965 1CD5 1CE2 1CF2 A830-A839"]⟩,
  ⟨["todr"], .ofTexts ["301 304 307 311 313 35E"]⟩,
  ⟨["toto"], .ofTexts ["2BC"]⟩,
  ⟨["tutg"], .ofTexts ["CE6-CEF 1CF2 1CF4 A830-A835 A8F1"]⟩,
  ⟨["yezi"], .ofTexts ["60C 61B 61F 660-669"]⟩,
  ⟨["yiii"], .ofTexts ["3001-3002 3008-3011 3014-301B 30FB FF61-FF65"]⟩]

/-- The characters used in some scripts and not in all. -/
def usedInSomeScripts : CharSet := unions (scriptUses.map (·.set))

/-- The characters that are used in the script with a given name. -/
def usedInScript? (name : String) : Option CharSet := do
  let script ← scripts.find? fun entry => entry.names.contains name
  if script.names.contains "common" ∨ script.names.contains "inherited" then
    return script.set.diff usedInSomeScripts
  else
    return script.set.union
      (unions ((scriptUses.filter fun entry => entry.names.any script.names.contains).map (·.set)))

end FeatureFlags.CharSet

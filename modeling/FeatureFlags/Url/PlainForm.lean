import FeatureFlags.Pattern.Property

/-!
**The plain forms of characters in domains.**

A domain is written in plain characters. A character that shows others in a particular shape stands
for those, some invisible characters are dropped, and characters without a form of their own, such
as blanks and marks of direction, are refused. Here a character is told from its plain form only
where that is in ASCII or is none.

* `Domain.plain?`: what a character stands for.
* `Domain.isPlain`: whether a character is its own plain form.
-/

namespace FeatureFlags.Domain

/-- The characters that are dropped. -/
def dropped : CharSet :=
  .ofTexts
    ["AD 34F 115F-1160 17B4-17B5 180B-180F 200B 2060-2064 206A-206F 3164 FE00-FE0F FEFF FFA0",
     "1BCA0-1BCA3 1D173-1D17A E0100-E01EF"]

/-- The characters without a plain form, such as blanks and marks of direction. -/
def formless : CharSet :=
  .ofTexts
    ["A0 A8 AF B4 B8 2D8-2DD 37A 384-385 600-605 61C 6DD 70F 890-891 8E2 1680 1FBD 1FBF-1FC1",
     "1FCD-1FCF 1FDD-1FDF 1FED-1FEE 1FFD-1FFE 2000-200A 200E-200F 2017 2024-2026 2028-202F 203E",
     "2047-2049 205F 2066-2069 2100-2101 2105-2106 2488-249B 2A74 2FF0-3000 309B-309C 31EF 33C2",
     "33C7 33D8 FC5E-FC63 FDFA-FDFB FE12 FE19 FE30 FE49-FE4C FE52 FE70 FE72 FE74 FE76 FE78 FE7A",
     "FE7C FE7E FFE3 FFF9-FFFD 110BD 110CD 13430-1343F 1F100 E0001 E0020-E007F"]

/-- The characters that no domain may hold: those without a form, those without a meaning, and those
for private use and for control. -/
def refused : CharSet :=
  .unions [formless, CharSet.assigned.compl, .ofCategories ["co"], .ofTexts ["80-9F"]]

/-- The characters outside of ASCII with plain forms outside of ASCII, besides those that change
with the case. -/
def refolded : CharSet :=
  .ofTexts
    ["2B1 2B4-2B6 2E0 2E4 340-341 343-344 374 387 3D2-3D4 3F2 675-678 958-95F 9DC-9DD 9DF A33 A36",
     "A59-A5B A5E B5C-B5D E33 EB3 EDC-EDD F0C F43 F4D F52 F57 F5C F69 F73 F75-F79 F81 F93 F9D FA2",
     "FA7 FAC FB9 10FC 1D2D 1D32 1D3D 1D44-1D46 1D4A-1D4C 1D51 1D53-1D55 1D59-1D5A 1D5C-1D61",
     "1D66-1D6A 1D78 1D9B 1D9D-1D9F 1DA1-1DBA 1DBC-1DBF 1F71 1F73 1F75 1F77 1F79 1F7B 1F7D 1FBE",
     "1FD3 1FE3 2011 2033-2034 2036-2037 2057 207B 208B 2094 2107 210F 2135-2138 213C-2140",
     "222C-222D 222F-2230 2329-232A 2A0C 2ADC 2D6F 2E9F 2EF3 2F00-2FD5 3036 3038-303A 309F 30FF",
     "3131-3163 3165-318E 3192-319F 3244-3247 3260-327E 3280-32B0 32D0-3357 337B-337F A69C-A69D",
     "A770 A7F8-A7F9 AB5C-AB5F AB69 F900-FA0D FA10 FA12 FA15-FA1E FA20 FA22 FA25-FA26 FA2A-FA6D",
     "FA70-FAD9 FB1D FB1F-FB28 FB2A-FB36 FB38-FB3C FB3E FB40-FB41 FB43-FB44 FB46-FBB1 FBD3-FC5D",
     "FC64-FD3D FD50-FD8F FD92-FDC7 FDF0-FDF9 FDFC FE11 FE17-FE18 FE31-FE32 FE39-FE44 FE51 FE58",
     "FE5D-FE5E FE71 FE77 FE79 FE7B FE7D FE7F-FEFC FF5F-FF60 FF62-FF9F FFA1-FFBE FFC2-FFC7",
     "FFCA-FFCF FFD2-FFD7 FFDA-FFDC FFE0-FFE2 FFE4-FFE6 FFE8-FFEE 10781-10785 10787-107A4",
     "107A6-107B0 107B2-107BA 1D15E-1D164 1D1BB-1D1C0 1D6A4-1D6A5 1D6A8-1D7CB 1E030-1E06D",
     "1EE00-1EE03 1EE05-1EE1F 1EE21-1EE22 1EE24 1EE27 1EE29-1EE32 1EE34-1EE37 1EE39 1EE3B 1EE42",
     "1EE47 1EE49 1EE4B 1EE4D-1EE4F 1EE51-1EE52 1EE54 1EE57 1EE59 1EE5B 1EE5D 1EE5F 1EE61-1EE62",
     "1EE64 1EE67-1EE6A 1EE6C-1EE72 1EE74-1EE77 1EE79-1EE7C 1EE7E 1EE80-1EE89 1EE8B-1EE9B",
     "1EEA1-1EEA3 1EEA5-1EEA9 1EEAB-1EEBB 1F200-1F202 1F210-1F23B 1F240-1F248 1F250-1F251",
     "2F800-2FA1D"]

/-! ### Forms in ASCII -/

/-- The characters from one to another and what they stand for: the first for a character and the
others for those that follow it, or all for some characters. -/
structure Spelling where
  first : Nat
  last : Nat
  form : List Char
deriving DecidableEq, Repr

/-- A spelling, written as a range and a form with a colon between them. -/
def Spelling.ofText (text : List Char) : Spelling :=
  let (range, form) := text.span (· != ':')
  let (first, last) := CharSet.rangeOfText range
  ⟨first, last, form.drop 1⟩

/-- The characters that stand for characters of ASCII, alone or among others. -/
def spellings : List Spelling :=
  List.flatMap (fun line => (CharSet.words line).map Spelling.ofText)
    ["AA:a B2-B3:2 B9:1 BA:o BC:1⁄4 BD:1⁄2 BE:3⁄4 130:i̇ 132:ij 133:ij 13F:l· 140:l· 149:ʼn 17F:s",
     "1C4:dž 1C5:dž 1C6:dž 1C7:lj 1C8:lj 1C9:lj 1CA:nj 1CB:nj 1CC:nj 1F1:dz 1F2:dz 1F3:dz 2B0:h",
     "2B2:j 2B3:r 2B7:w 2B8:y 2E1:l 2E2:s 2E3:x 37E:; 1D2C:a 1D2E:b 1D30-1D31:d 1D33-1D3A:g 1D3C:o",
     "1D3E:p 1D3F:r 1D40-1D41:t 1D42:w 1D43:a 1D47:b 1D48-1D49:d 1D4D:g 1D4F:k 1D50:m 1D52:o",
     "1D56:p 1D57-1D58:t 1D5B:v 1D62:i 1D63:r 1D64-1D65:u 1D9C:c 1DA0:f 1DBB:z 1E9A:aʾ 1FEF:`",
     "203C:!! 2070:0 2071:i 2074-2079:4 207A:+ 207C:= 207D-207E:( 207F:n 2080-2089:0 208A:+ 208C:=",
     "208D-208E:( 2090:a 2091:e 2092:o 2093:x 2095:h 2096-2099:k 209A:p 209B-209C:s 20A8:rs 2102:c",
     "2103:°c 2109:°f 210A-210B:g 210C:h 210D:h 210E:h 2110:i 2111:i 2112:l 2113:l 2115:n 2116:no",
     "2119-211B:p 211C:r 211D:r 2120:sm 2121:tel 2122:tm 2124:z 2128:z 212A:k 212C-212D:b 212F:e",
     "2130-2131:e 2133:m 2134:o 2139:i 213B:fax 2145:d 2146-2147:d 2148-2149:i 2150:1⁄7 2151:1⁄9",
     "2152:1⁄10 2153:1⁄3 2154:2⁄3 2155:1⁄5 2156:2⁄5 2157:3⁄5 2158:4⁄5 2159:1⁄6 215A:5⁄6 215B:1⁄8",
     "215C:3⁄8 215D:5⁄8 215E:7⁄8 215F:1⁄ 2160:i 2161:ii 2162:iii 2163:iv 2164:v 2165:vi 2166:vii",
     "2167:viii 2168:ix 2169:x 216A:xi 216B:xii 216C:l 216D-216E:c 216F:m 2170:i 2171:ii 2172:iii",
     "2173:iv 2174:v 2175:vi 2176:vii 2177:viii 2178:ix 2179:x 217A:xi 217B:xii 217C:l 217D-217E:c",
     "217F:m 2189:0⁄3 2460-2468:1 2469:10 246A:11 246B:12 246C:13 246D:14 246E:15 246F:16 2470:17",
     "2471:18 2472:19 2473:20 2474:(1) 2475:(2) 2476:(3) 2477:(4) 2478:(5) 2479:(6) 247A:(7)",
     "247B:(8) 247C:(9) 247D:(10) 247E:(11) 247F:(12) 2480:(13) 2481:(14) 2482:(15) 2483:(16)",
     "2484:(17) 2485:(18) 2486:(19) 2487:(20) 249C:(a) 249D:(b) 249E:(c) 249F:(d) 24A0:(e)",
     "24A1:(f) 24A2:(g) 24A3:(h) 24A4:(i) 24A5:(j) 24A6:(k) 24A7:(l) 24A8:(m) 24A9:(n) 24AA:(o)",
     "24AB:(p) 24AC:(q) 24AD:(r) 24AE:(s) 24AF:(t) 24B0:(u) 24B1:(v) 24B2:(w) 24B3:(x) 24B4:(y)",
     "24B5:(z) 24B6-24CF:a 24D0-24E9:a 24EA:0 2A75:== 2A76:=== 2C7C:j 2C7D:v 3002:. 3200:(ᄀ)",
     "3201:(ᄂ) 3202:(ᄃ) 3203:(ᄅ) 3204:(ᄆ) 3205:(ᄇ) 3206:(ᄉ) 3207:(ᄋ) 3208:(ᄌ) 3209:(ᄎ) 320A:(ᄏ)",
     "320B:(ᄐ) 320C:(ᄑ) 320D:(ᄒ) 320E:(가) 320F:(나) 3210:(다) 3211:(라) 3212:(마) 3213:(바) 3214:(사)",
     "3215:(아) 3216:(자) 3217:(차) 3218:(카) 3219:(타) 321A:(파) 321B:(하) 321C:(주) 321D:(오전) 321E:(오후)",
     "3220:(一) 3221:(二) 3222:(三) 3223:(四) 3224:(五) 3225:(六) 3226:(七) 3227:(八) 3228:(九) 3229:(十)",
     "322A:(月) 322B:(火) 322C:(水) 322D:(木) 322E:(金) 322F:(土) 3230:(日) 3231:(株) 3232:(有) 3233:(社)",
     "3234:(名) 3235:(特) 3236:(財) 3237:(祝) 3238:(労) 3239:(代) 323A:(呼) 323B:(学) 323C:(監) 323D:(企)",
     "323E:(資) 323F:(協) 3240:(祭) 3241:(休) 3242:(自) 3243:(至) 3250:pte 3251:21 3252:22 3253:23",
     "3254:24 3255:25 3256:26 3257:27 3258:28 3259:29 325A:30 325B:31 325C:32 325D:33 325E:34",
     "325F:35 32B1:36 32B2:37 32B3:38 32B4:39 32B5:40 32B6:41 32B7:42 32B8:43 32B9:44 32BA:45",
     "32BB:46 32BC:47 32BD:48 32BE:49 32BF:50 32C0:1月 32C1:2月 32C2:3月 32C3:4月 32C4:5月 32C5:6月",
     "32C6:7月 32C7:8月 32C8:9月 32C9:10月 32CA:11月 32CB:12月 32CC:hg 32CD:erg 32CE:ev 32CF:ltd 3358:0点",
     "3359:1点 335A:2点 335B:3点 335C:4点 335D:5点 335E:6点 335F:7点 3360:8点 3361:9点 3362:10点 3363:11点",
     "3364:12点 3365:13点 3366:14点 3367:15点 3368:16点 3369:17点 336A:18点 336B:19点 336C:20点 336D:21点",
     "336E:22点 336F:23点 3370:24点 3371:hpa 3372:da 3373:au 3374:bar 3375:ov 3376:pc 3377:dm",
     "3378:dm2 3379:dm3 337A:iu 3380:pa 3381:na 3382:μa 3383:ma 3384:ka 3385:kb 3386:mb 3387:gb",
     "3388:cal 3389:kcal 338A:pf 338B:nf 338C:μf 338D:μg 338E:mg 338F:kg 3390:hz 3391:khz 3392:mhz",
     "3393:ghz 3394:thz 3395:μl 3396:ml 3397:dl 3398:kl 3399:fm 339A:nm 339B:μm 339C:mm 339D:cm",
     "339E:km 339F:mm2 33A0:cm2 33A1:m2 33A2:km2 33A3:mm3 33A4:cm3 33A5:m3 33A6:km3 33A7:m∕s",
     "33A8:m∕s2 33A9:pa 33AA:kpa 33AB:mpa 33AC:gpa 33AD:rad 33AE:rad∕s 33AF:rad∕s2 33B0:ps 33B1:ns",
     "33B2:μs 33B3:ms 33B4:pv 33B5:nv 33B6:μv 33B7:mv 33B8:kv 33B9:mv 33BA:pw 33BB:nw 33BC:μw",
     "33BD:mw 33BE:kw 33BF:mw 33C0:kω 33C1:mω 33C3:bq 33C4:cc 33C5:cd 33C6:c∕kg 33C8:db 33C9:gy",
     "33CA:ha 33CB:hp 33CC:in 33CD:kk 33CE:km 33CF:kt 33D0:lm 33D1:ln 33D2:log 33D3:lx 33D4:mb",
     "33D5:mil 33D6:mol 33D7:ph 33D9:ppm 33DA:pr 33DB:sr 33DC:sv 33DD:wb 33DE:v∕m 33DF:a∕m 33E0:1日",
     "33E1:2日 33E2:3日 33E3:4日 33E4:5日 33E5:6日 33E6:7日 33E7:8日 33E8:9日 33E9:10日 33EA:11日 33EB:12日",
     "33EC:13日 33ED:14日 33EE:15日 33EF:16日 33F0:17日 33F1:18日 33F2:19日 33F3:20日 33F4:21日 33F5:22日",
     "33F6:23日 33F7:24日 33F8:25日 33F9:26日 33FA:27日 33FB:28日 33FC:29日 33FD:30日 33FE:31日 33FF:gal",
     "A7F2:c A7F3:f A7F4:q FB00:ff FB01:fi FB02:fl FB03:ffi FB04:ffl FB05:st FB06:st FB29:+ FE10:,",
     "FE13-FE14:: FE15:! FE16:? FE33:_ FE34:_ FE35-FE36:( FE37:\x7b FE38:\x7d FE47:[ FE48:] FE4D:_",
     "FE4E:_ FE4F:_ FE50:, FE54:; FE55:: FE56:? FE57:! FE59-FE5A:( FE5B:\x7b FE5C:\x7d FE5F:#",
     "FE60:& FE61-FE62:* FE63:- FE64:< FE65:> FE66:= FE68:\\ FE69-FE6A:$ FE6B:@ FF01-FF20:!",
     "FF21-FF3A:a FF3B-FF5E:[ FF61:. 107A5:q 1CCD6-1CCEF:a 1CCF0-1CCF9:0 1D400-1D419:a",
     "1D41A-1D433:a 1D434-1D44D:a 1D44E-1D454:a 1D456-1D467:i 1D468-1D481:a 1D482-1D49B:a 1D49C:a",
     "1D49E-1D49F:c 1D4A2:g 1D4A5-1D4A6:j 1D4A9-1D4AC:n 1D4AE-1D4B5:s 1D4B6-1D4B9:a 1D4BB:f",
     "1D4BD-1D4C3:h 1D4C5-1D4CF:p 1D4D0-1D4E9:a 1D4EA-1D503:a 1D504-1D505:a 1D507-1D50A:d",
     "1D50D-1D514:j 1D516-1D51C:s 1D51E-1D537:a 1D538-1D539:a 1D53B-1D53E:d 1D540-1D544:i 1D546:o",
     "1D54A-1D550:s 1D552-1D56B:a 1D56C-1D585:a 1D586-1D59F:a 1D5A0-1D5B9:a 1D5BA-1D5D3:a",
     "1D5D4-1D5ED:a 1D5EE-1D607:a 1D608-1D621:a 1D622-1D63B:a 1D63C-1D655:a 1D656-1D66F:a",
     "1D670-1D689:a 1D68A-1D6A3:a 1D7CE-1D7D7:0 1D7D8-1D7E1:0 1D7E2-1D7EB:0 1D7EC-1D7F5:0",
     "1D7F6-1D7FF:0 1F101:0, 1F102:1, 1F103:2, 1F104:3, 1F105:4, 1F106:5, 1F107:6, 1F108:7,",
     "1F109:8, 1F10A:9, 1F110:(a) 1F111:(b) 1F112:(c) 1F113:(d) 1F114:(e) 1F115:(f) 1F116:(g)",
     "1F117:(h) 1F118:(i) 1F119:(j) 1F11A:(k) 1F11B:(l) 1F11C:(m) 1F11D:(n) 1F11E:(o) 1F11F:(p)",
     "1F120:(q) 1F121:(r) 1F122:(s) 1F123:(t) 1F124:(u) 1F125:(v) 1F126:(w) 1F127:(x) 1F128:(y)",
     "1F129:(z) 1F12A:〔s〕 1F12B:c 1F12C:r 1F12D:cd 1F12E:wz 1F130-1F149:a 1F14A:hv 1F14B:mv",
     "1F14C:sd 1F14D:ss 1F14E:ppv 1F14F:wc 1F16A:mc 1F16B:md 1F16C:mr 1F190:dj 1FBF0-1FBF9:0"]

/-- What the table says that a code stands for. -/
def spelled? (code : Nat) : Option (List Char) :=
  (spellings.find? fun spelling => spelling.first ≤ code && code ≤ spelling.last).map
    fun spelling =>
      match spelling.form with
      | [c] => [Char.ofNat (c.toNat + (code - spelling.first))]
      | form => form

/-! ### Plain forms -/

/-- What a character stands for; nothing if no domain may hold it. -/
def plain? (c : Char) : Option (List Char) :=
  if c.toNat < 128 then some [c.toLower]
  else if dropped.contains c then some []
  else
    match spelled? c.toNat with
    | some form => some form
    | none => if refused.contains c then none else some [c]

/-- Two letters that are plain although they change with the case. -/
def keptLetters : List Char := ['ß', 'ς']

/-- Whether a character is its own plain form. -/
def isPlain (c : Char) : Bool :=
  plain? c == some [c] && !refolded.contains c &&
    (keptLetters.contains c || !CharSet.changesWhenCasefolded.contains c)

end FeatureFlags.Domain

import TypeSchema.Unicode.Script

/-!
# Script extensions

Some characters are used with other scripts than the one they belong to.  This module says which,
and gives the set of all characters that a script uses.
-/

namespace TypeSchema.Unicode.Script

/-- Ranges of characters that are not used with exactly the script they belong to, and the scripts
that they are used with. -/
def shared : List (Nat × Nat × List Ranges) := [
  (0x342, 0x342, [greek]),
  (0x345, 0x345, [greek]),
  (0x363, 0x36f, [latin]),
  (0x483, 0x483, [cyrillic, oldPermic]),
  (0x484, 0x484, [cyrillic, glagolitic]),
  (0x485, 0x486, [cyrillic, latin]),
  (0x487, 0x487, [cyrillic, glagolitic]),
  (0x60c, 0x60c, [arabic, hanifiRohingya, nko, syriac, thaana, yezidi]),
  (0x61b, 0x61b, [arabic, hanifiRohingya, nko, syriac, thaana, yezidi]),
  (0x61c, 0x61c, [arabic, syriac, thaana]),
  (0x61f, 0x61f, [adlam, arabic, hanifiRohingya, nko, syriac, thaana, yezidi]),
  (0x640, 0x640, [adlam, arabic, hanifiRohingya, mandaic, manichaean, oldUyghur, psalterPahlavi,
    sogdian, syriac]),
  (0x64b, 0x655, [arabic, syriac]),
  (0x660, 0x669, [arabic, thaana, yezidi]),
  (0x670, 0x670, [arabic, syriac]),
  (0x6d4, 0x6d4, [arabic, hanifiRohingya]),
  (0x951, 0x951, [bengali, devanagari, grantha, gujarati, gurmukhi, kannada, latin, malayalam,
    oriya, sharada, tamil, telugu, tirhuta]),
  (0x952, 0x952, [bengali, devanagari, grantha, gujarati, gurmukhi, kannada, latin, malayalam,
    oriya, tamil, telugu, tirhuta]),
  (0x964, 0x964, [bengali, devanagari, dogra, grantha, gujarati, gunjalaGondi, gurmukhi, kannada,
    khudawadi, mahajani, malayalam, masaramGondi, nandinagari, oriya, sinhala, sylotiNagri, takri,
    tamil, telugu, tirhuta]),
  (0x965, 0x965, [bengali, devanagari, dogra, grantha, gujarati, gunjalaGondi, gurmukhi, kannada,
    khudawadi, limbu, mahajani, malayalam, masaramGondi, nandinagari, oriya, sinhala, sylotiNagri,
    takri, tamil, telugu, tirhuta]),
  (0x966, 0x96f, [devanagari, dogra, kaithi, mahajani]),
  (0x9e6, 0x9ef, [bengali, chakma, sylotiNagri]),
  (0xa66, 0xa6f, [gurmukhi, multani]),
  (0xae6, 0xaef, [gujarati, khojki]),
  (0xbe6, 0xbf3, [grantha, tamil]),
  (0xce6, 0xcef, [kannada, nandinagari]),
  (0x1040, 0x1049, [chakma, myanmar, taiLe]),
  (0x10fb, 0x10fb, [georgian, latin]),
  (0x1735, 0x1736, [buhid, hanunoo, tagalog, tagbanwa]),
  (0x1802, 0x1803, [mongolian, phagsPa]),
  (0x1805, 0x1805, [mongolian, phagsPa]),
  (0x1cd0, 0x1cd0, [bengali, devanagari, grantha, kannada]),
  (0x1cd1, 0x1cd1, [devanagari]),
  (0x1cd2, 0x1cd2, [bengali, devanagari, grantha, kannada]),
  (0x1cd3, 0x1cd3, [devanagari, grantha]),
  (0x1cd4, 0x1cd4, [devanagari]),
  (0x1cd5, 0x1cd6, [bengali, devanagari]),
  (0x1cd7, 0x1cd7, [devanagari, sharada]),
  (0x1cd8, 0x1cd8, [bengali, devanagari]),
  (0x1cd9, 0x1cd9, [devanagari, sharada]),
  (0x1cda, 0x1cda, [devanagari, kannada, malayalam, oriya, tamil, telugu]),
  (0x1cdb, 0x1cdb, [devanagari]),
  (0x1cdc, 0x1cdd, [devanagari, sharada]),
  (0x1cde, 0x1cdf, [devanagari]),
  (0x1ce0, 0x1ce0, [devanagari, sharada]),
  (0x1ce1, 0x1ce1, [bengali, devanagari]),
  (0x1ce2, 0x1ce8, [devanagari]),
  (0x1ce9, 0x1ce9, [devanagari, nandinagari]),
  (0x1cea, 0x1cea, [bengali, devanagari]),
  (0x1ceb, 0x1cec, [devanagari]),
  (0x1ced, 0x1ced, [bengali, devanagari]),
  (0x1cee, 0x1cf1, [devanagari]),
  (0x1cf2, 0x1cf2, [bengali, devanagari, grantha, kannada, nandinagari, oriya, telugu, tirhuta]),
  (0x1cf3, 0x1cf3, [devanagari, grantha]),
  (0x1cf4, 0x1cf4, [devanagari, grantha, kannada]),
  (0x1cf5, 0x1cf6, [bengali, devanagari]),
  (0x1cf7, 0x1cf7, [bengali]),
  (0x1cf8, 0x1cf9, [devanagari, grantha]),
  (0x1cfa, 0x1cfa, [nandinagari]),
  (0x1dc0, 0x1dc1, [greek]),
  (0x1df8, 0x1df8, [cyrillic, syriac]),
  (0x1dfa, 0x1dfa, [syriac]),
  (0x202f, 0x202f, [latin, mongolian]),
  (0x20f0, 0x20f0, [devanagari, grantha, latin]),
  (0x2e43, 0x2e43, [cyrillic, glagolitic]),
  (0x3001, 0x3002, [bopomofo, han, hangul, hiragana, katakana, yi]),
  (0x3003, 0x3003, [bopomofo, han, hangul, hiragana, katakana]),
  (0x3006, 0x3006, [han]),
  (0x3008, 0x3011, [bopomofo, han, hangul, hiragana, katakana, yi]),
  (0x3013, 0x3013, [bopomofo, han, hangul, hiragana, katakana]),
  (0x3014, 0x301b, [bopomofo, han, hangul, hiragana, katakana, yi]),
  (0x301c, 0x301f, [bopomofo, han, hangul, hiragana, katakana]),
  (0x302a, 0x302d, [bopomofo, han]),
  (0x3030, 0x3030, [bopomofo, han, hangul, hiragana, katakana]),
  (0x3031, 0x3035, [hiragana, katakana]),
  (0x3037, 0x3037, [bopomofo, han, hangul, hiragana, katakana]),
  (0x303c, 0x303d, [han, hiragana, katakana]),
  (0x303e, 0x303f, [han]),
  (0x3099, 0x309c, [hiragana, katakana]),
  (0x30a0, 0x30a0, [hiragana, katakana]),
  (0x30fb, 0x30fb, [bopomofo, han, hangul, hiragana, katakana, yi]),
  (0x30fc, 0x30fc, [hiragana, katakana]),
  (0x3190, 0x319f, [han]),
  (0x31c0, 0x31e3, [han]),
  (0x3220, 0x3247, [han]),
  (0x3280, 0x32b0, [han]),
  (0x32c0, 0x32cb, [han]),
  (0x32ff, 0x32ff, [han]),
  (0x3358, 0x3370, [han]),
  (0x337b, 0x337f, [han]),
  (0x33e0, 0x33fe, [han]),
  (0xa66f, 0xa66f, [cyrillic, glagolitic]),
  (0xa700, 0xa707, [han, latin]),
  (0xa830, 0xa832, [devanagari, dogra, gujarati, gurmukhi, kaithi, kannada, khojki, khudawadi,
    mahajani, malayalam, modi, nandinagari, takri, tirhuta]),
  (0xa833, 0xa835, [devanagari, dogra, gujarati, gurmukhi, kaithi, kannada, khojki, khudawadi,
    mahajani, modi, nandinagari, takri, tirhuta]),
  (0xa836, 0xa839, [devanagari, dogra, gujarati, gurmukhi, kaithi, khojki, khudawadi, mahajani,
    modi, takri, tirhuta]),
  (0xa8f1, 0xa8f1, [bengali, devanagari]),
  (0xa8f3, 0xa8f3, [devanagari, tamil]),
  (0xa92e, 0xa92e, [kayahLi, latin, myanmar]),
  (0xa9cf, 0xa9cf, [buginese, javanese]),
  (0xfd3e, 0xfd3f, [arabic, nko]),
  (0xfdf2, 0xfdf2, [arabic, thaana]),
  (0xfdfd, 0xfdfd, [arabic, thaana]),
  (0xfe45, 0xfe46, [bopomofo, han, hangul, hiragana, katakana]),
  (0xff61, 0xff65, [bopomofo, han, hangul, hiragana, katakana, yi]),
  (0xff70, 0xff70, [hiragana, katakana]),
  (0xff9e, 0xff9f, [hiragana, katakana]),
  (0x10100, 0x10101, [cypriot, cyproMinoan, linearB]),
  (0x10102, 0x10102, [cypriot, linearB]),
  (0x10107, 0x10133, [cypriot, linearA, linearB]),
  (0x10137, 0x1013f, [cypriot, linearB]),
  (0x102e0, 0x102fb, [arabic, coptic]),
  (0x10af2, 0x10af2, [manichaean, oldUyghur]),
  (0x11301, 0x11301, [grantha, tamil]),
  (0x11303, 0x11303, [grantha, tamil]),
  (0x1133b, 0x1133c, [grantha, tamil]),
  (0x11fd0, 0x11fd1, [grantha, tamil]),
  (0x11fd3, 0x11fd3, [grantha, tamil]),
  (0x1bca0, 0x1bca3, [duployan]),
  (0x1d360, 0x1d371, [han]),
  (0x1f250, 0x1f251, [han])]

/-- The ranges of `shared` whose scripts are as asked for. -/
def sharedBy (wanted : List Ranges → Bool) : Ranges :=
  (shared.filter fun (_, _, scripts) => wanted scripts).map fun (lo, hi, _) => (lo, hi)

/-- All characters that are used with a script: its own, unless they are used with others only, and
those of other scripts that it shares. -/
def extended (script : Ranges) : Ranges :=
  Ranges.union (Ranges.diff script (sharedBy fun _ => true)) (sharedBy (script ∈ ·))

end TypeSchema.Unicode.Script

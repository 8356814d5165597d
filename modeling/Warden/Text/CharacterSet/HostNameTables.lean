/-!
Characters of host names: which ones a prepared name can hold, in which order their marks stand, which
letters join with a mark, and in which direction letters are written.
-/

namespace Warden.Text.CharacterSet.HostName

/-- The characters beyond the basic alphabet that a prepared name can hold: every `step`-th code from
the first one up to the last one, written as first, last and step. -/
def preparedRuns : Array (Nat × Nat × Nat) := #[
  (0xA1, 0xA7, 1), (0xA9, 0xA9, 1), (0xAB, 0xAC, 1), (0xAE, 0xAE, 1), (0xB0, 0xB1, 1),
  (0xB6, 0xB7, 1), (0xBB, 0xBB, 1), (0xBF, 0xBF, 1), (0xD7, 0xD7, 1), (0xE0, 0xFF, 1),
  (0x101, 0x131, 2), (0x135, 0x135, 1), (0x137, 0x138, 1), (0x13A, 0x13E, 2), (0x142, 0x148, 2),
  (0x14B, 0x177, 2), (0x17A, 0x180, 2), (0x183, 0x185, 2), (0x188, 0x188, 1), (0x18C, 0x18D, 1),
  (0x192, 0x192, 1), (0x195, 0x195, 1), (0x199, 0x19B, 1), (0x19E, 0x19E, 1), (0x1A1, 0x1A5, 2),
  (0x1A8, 0x1A8, 1), (0x1AA, 0x1AB, 1), (0x1AD, 0x1AD, 1), (0x1B0, 0x1B0, 1), (0x1B4, 0x1B6, 2),
  (0x1B9, 0x1BB, 1), (0x1BD, 0x1C3, 1), (0x1CE, 0x1DA, 2), (0x1DC, 0x1DD, 1), (0x1DF, 0x1ED, 2),
  (0x1EF, 0x1F0, 1), (0x1F5, 0x1F5, 1), (0x1F9, 0x231, 2), (0x233, 0x239, 1), (0x23C, 0x23C, 1),
  (0x23F, 0x240, 1), (0x242, 0x242, 1), (0x247, 0x24D, 2), (0x24F, 0x2AF, 1), (0x2B9, 0x2D7, 1),
  (0x2DE, 0x2DF, 1), (0x2E5, 0x33F, 1), (0x342, 0x342, 1), (0x346, 0x34E, 1), (0x350, 0x36F, 1),
  (0x371, 0x375, 2), (0x377, 0x379, 1), (0x37B, 0x37D, 1), (0x380, 0x383, 1), (0x38B, 0x38D, 2),
  (0x390, 0x390, 1), (0x3A2, 0x3A2, 1), (0x3AC, 0x3C1, 1), (0x3C3, 0x3CE, 1), (0x3D7, 0x3EF, 2),
  (0x3F3, 0x3F3, 1), (0x3F6, 0x3F8, 2), (0x3FB, 0x3FC, 1), (0x430, 0x45F, 1), (0x461, 0x47F, 2),
  (0x481, 0x489, 1), (0x48B, 0x4BF, 2), (0x4C2, 0x4CC, 2), (0x4CE, 0x4CF, 1), (0x4D1, 0x52D, 2),
  (0x52F, 0x530, 1), (0x557, 0x586, 1), (0x588, 0x674, 1), (0x679, 0x6DC, 1), (0x6DE, 0x70E, 1),
  (0x710, 0x957, 1), (0x960, 0x9DB, 1), (0x9DE, 0x9DE, 1), (0x9E0, 0xA32, 1), (0xA34, 0xA35, 1),
  (0xA37, 0xA58, 1), (0xA5C, 0xA5D, 1), (0xA5F, 0xB5B, 1), (0xB5E, 0xE32, 1), (0xE34, 0xEB2, 1),
  (0xEB4, 0xEDB, 1), (0xEDE, 0xF0B, 1), (0xF0D, 0xF42, 1), (0xF44, 0xF4C, 1), (0xF4E, 0xF51, 1),
  (0xF53, 0xF56, 1), (0xF58, 0xF5B, 1), (0xF5D, 0xF68, 1), (0xF6A, 0xF72, 1), (0xF74, 0xF74, 1),
  (0xF7A, 0xF80, 1), (0xF82, 0xF92, 1), (0xF94, 0xF9C, 1), (0xF9E, 0xFA1, 1), (0xFA3, 0xFA6, 1),
  (0xFA8, 0xFAB, 1), (0xFAD, 0xFB8, 1), (0xFBA, 0x109F, 1), (0x10C6, 0x10C6, 1),
  (0x10C8, 0x10CC, 1), (0x10CE, 0x139F, 1), (0x13F6, 0x167F, 1), (0x1681, 0x1805, 1),
  (0x1807, 0x180A, 1), (0x180F, 0x1C8F, 1), (0x1CBB, 0x1CBC, 1), (0x1CC0, 0x1DFF, 1),
  (0x1E01, 0x1E93, 2), (0x1E95, 0x1E99, 1), (0x1E9C, 0x1E9D, 1), (0x1E9F, 0x1EFD, 2),
  (0x1EFF, 0x1F07, 1), (0x1F10, 0x1F17, 1), (0x1F1E, 0x1F27, 1), (0x1F30, 0x1F37, 1),
  (0x1F40, 0x1F47, 1), (0x1F4E, 0x1F58, 1), (0x1F5A, 0x1F5E, 2), (0x1F60, 0x1F67, 1),
  (0x1F70, 0x1F7C, 2), (0x1F7E, 0x1F7F, 1), (0x1FB0, 0x1FB1, 1), (0x1FB5, 0x1FB6, 1),
  (0x1FC5, 0x1FC6, 1), (0x1FD0, 0x1FD2, 1), (0x1FD4, 0x1FD7, 1), (0x1FDC, 0x1FDC, 1),
  (0x1FE0, 0x1FE2, 1), (0x1FE4, 0x1FE7, 1), (0x1FF0, 0x1FF1, 1), (0x1FF5, 0x1FF6, 1),
  (0x1FFF, 0x1FFF, 1), (0x2010, 0x2010, 1), (0x2012, 0x2016, 1), (0x2018, 0x2023, 1),
  (0x2027, 0x2027, 1), (0x2030, 0x2032, 1), (0x2035, 0x2035, 1), (0x2038, 0x203B, 1),
  (0x203D, 0x203D, 1), (0x203F, 0x2046, 1), (0x204A, 0x2056, 1), (0x2058, 0x205E, 1),
  (0x2064, 0x2069, 1), (0x2072, 0x2073, 1), (0x208F, 0x20A7, 1), (0x20A9, 0x20FF, 1),
  (0x2104, 0x2104, 1), (0x2108, 0x2108, 1), (0x2114, 0x2114, 1), (0x2117, 0x2118, 1),
  (0x211E, 0x211F, 1), (0x2123, 0x2129, 2), (0x212E, 0x212E, 1), (0x213A, 0x213C, 1),
  (0x2141, 0x2144, 1), (0x214A, 0x2152, 1), (0x2180, 0x2182, 1), (0x2184, 0x222B, 1),
  (0x222E, 0x222E, 1), (0x2231, 0x2328, 1), (0x232B, 0x245F, 1), (0x24EB, 0x2A0B, 1),
  (0x2A0D, 0x2A73, 1), (0x2A77, 0x2ADB, 1), (0x2ADD, 0x2BFF, 1), (0x2C30, 0x2C5F, 1),
  (0x2C61, 0x2C61, 1), (0x2C65, 0x2C66, 1), (0x2C68, 0x2C6C, 2), (0x2C71, 0x2C71, 1),
  (0x2C73, 0x2C74, 1), (0x2C76, 0x2C7D, 1), (0x2C81, 0x2CE1, 2), (0x2CE3, 0x2CEA, 1),
  (0x2CEC, 0x2CEC, 1), (0x2CEE, 0x2CF1, 1), (0x2CF3, 0x2E9E, 1), (0x2EA0, 0x2EF2, 1),
  (0x2EF4, 0x2EFF, 1), (0x2FD6, 0x2FEF, 1), (0x2FFC, 0x2FFF, 1), (0x3001, 0x3035, 1),
  (0x3037, 0x3037, 1), (0x303B, 0x309A, 1), (0x309D, 0x309E, 1), (0x30A0, 0x30FE, 1),
  (0x3100, 0x3130, 1), (0x318F, 0x3191, 1), (0x31A0, 0x31FF, 1), (0x321D, 0x321F, 1),
  (0x3244, 0x3250, 1), (0x327C, 0x327F, 1), (0x32CC, 0x32CF, 1), (0x32FF, 0x32FF, 1),
  (0x3377, 0x337A, 1), (0x33DE, 0x33DF, 1), (0x33FF, 0xA63F, 1), (0xA641, 0xA66B, 2),
  (0xA66D, 0xA67F, 1), (0xA681, 0xA699, 2), (0xA69B, 0xA721, 1), (0xA723, 0xA72D, 2),
  (0xA72F, 0xA731, 1), (0xA733, 0xA76D, 2), (0xA76F, 0xA778, 1), (0xA77A, 0xA77C, 2),
  (0xA77F, 0xA785, 2), (0xA787, 0xA78A, 1), (0xA78C, 0xA78C, 1), (0xA78E, 0xA78F, 1),
  (0xA791, 0xA791, 1), (0xA793, 0xA795, 1), (0xA797, 0xA7A9, 2), (0xA7AF, 0xA7AF, 1),
  (0xA7B5, 0xA7C3, 2), (0xA7C8, 0xA7C8, 1), (0xA7CA, 0xA7CF, 1), (0xA7D1, 0xA7D5, 1),
  (0xA7D7, 0xA7D7, 1), (0xA7D9, 0xA7F4, 1), (0xA7F6, 0xD7FF, 1), (0xFA0E, 0xFA0F, 1),
  (0xFA11, 0xFA11, 1), (0xFA13, 0xFA14, 1), (0xFA1F, 0xFA21, 2), (0xFA23, 0xFA24, 1),
  (0xFA27, 0xFA29, 1), (0xFA2E, 0xFA2F, 1), (0xFA6B, 0xFAFF, 1), (0xFB07, 0xFB12, 1),
  (0xFB18, 0xFB1C, 1), (0xFB1E, 0xFB1E, 1), (0xFB37, 0xFB37, 1), (0xFB3D, 0xFB3F, 2),
  (0xFB42, 0xFB42, 1), (0xFB45, 0xFB45, 1), (0xFBB2, 0xFBD2, 1), (0xFD3E, 0xFD4F, 1),
  (0xFD90, 0xFD91, 1), (0xFDC8, 0xFDCF, 1), (0xFDFD, 0xFDFF, 1), (0xFE10, 0xFE2F, 1),
  (0xFE45, 0xFE48, 1), (0xFE53, 0xFE53, 1), (0xFE67, 0xFE67, 1), (0xFE6C, 0xFE6F, 1),
  (0xFE73, 0xFE75, 2), (0xFEFD, 0xFEFE, 1), (0xFF00, 0xFF00, 1), (0xFFBF, 0xFFC1, 1),
  (0xFFC8, 0xFFC9, 1), (0xFFD0, 0xFFD1, 1), (0xFFD8, 0xFFD9, 1), (0xFFDD, 0xFFDF, 1),
  (0xFFE7, 0xFFE7, 1), (0xFFEF, 0xFFF8, 1), (0x10000, 0x103FF, 1), (0x10428, 0x104AF, 1),
  (0x104D4, 0x1056F, 1), (0x1057B, 0x1057B, 1), (0x1058B, 0x1058B, 1), (0x10593, 0x10593, 1),
  (0x10596, 0x10C7F, 1), (0x10CB3, 0x1189F, 1), (0x118C0, 0x16E3F, 1), (0x16E60, 0x1D15D, 1),
  (0x1D165, 0x1D172, 1), (0x1D17B, 0x1D1BA, 1), (0x1D1C1, 0x1D3FF, 1), (0x1D455, 0x1D455, 1),
  (0x1D49D, 0x1D49D, 1), (0x1D4A0, 0x1D4A1, 1), (0x1D4A3, 0x1D4A4, 1), (0x1D4A7, 0x1D4A8, 1),
  (0x1D4AD, 0x1D4AD, 1), (0x1D4BA, 0x1D4BC, 2), (0x1D4C1, 0x1D4C1, 1), (0x1D4C4, 0x1D4C4, 1),
  (0x1D506, 0x1D506, 1), (0x1D50B, 0x1D50C, 1), (0x1D515, 0x1D515, 1), (0x1D51D, 0x1D51D, 1),
  (0x1D53A, 0x1D53A, 1), (0x1D53F, 0x1D53F, 1), (0x1D545, 0x1D545, 1), (0x1D547, 0x1D549, 1),
  (0x1D551, 0x1D551, 1), (0x1D6A4, 0x1D6A7, 1), (0x1D7CA, 0x1D7CD, 1), (0x1D800, 0x1E8FF, 1),
  (0x1E922, 0x1FFFD, 1), (0x20000, 0x2F7FF, 1), (0x2FA1E, 0x2FFFD, 1), (0x30000, 0x3FFFD, 1),
  (0x40000, 0x4FFFD, 1), (0x50000, 0x5FFFD, 1), (0x60000, 0x6FFFD, 1), (0x70000, 0x7FFFD, 1),
  (0x80000, 0x8FFFD, 1), (0x90000, 0x9FFFD, 1), (0xA0000, 0xAFFFD, 1), (0xB0000, 0xBFFFD, 1),
  (0xC0000, 0xCFFFD, 1), (0xD0000, 0xDFFFD, 1), (0xE0000, 0xE0000, 1), (0xE0002, 0xE001F, 1),
  (0xE0080, 0xEFFFD, 1)]

/-- Marks and the order in which they follow a letter: first and last code, and the class. -/
def markClasses : Array (Nat × Nat × Nat) := #[
  (0x300, 0x314, 230), (0x315, 0x315, 232), (0x316, 0x319, 220), (0x31A, 0x31A, 232),
  (0x31B, 0x31B, 216), (0x31C, 0x320, 220), (0x321, 0x322, 202), (0x323, 0x326, 220),
  (0x327, 0x328, 202), (0x329, 0x333, 220), (0x334, 0x338, 1), (0x339, 0x33C, 220),
  (0x33D, 0x33F, 230), (0x342, 0x342, 230), (0x346, 0x346, 230), (0x347, 0x349, 220),
  (0x34A, 0x34C, 230), (0x34D, 0x34E, 220), (0x350, 0x352, 230), (0x353, 0x356, 220),
  (0x357, 0x357, 230), (0x358, 0x358, 232), (0x359, 0x35A, 220), (0x35B, 0x35B, 230),
  (0x35C, 0x35C, 233), (0x35D, 0x35E, 234), (0x35F, 0x35F, 233), (0x360, 0x361, 234),
  (0x362, 0x362, 233), (0x363, 0x36F, 230), (0x483, 0x487, 230), (0x591, 0x591, 220),
  (0x592, 0x595, 230), (0x596, 0x596, 220), (0x597, 0x599, 230), (0x59A, 0x59A, 222),
  (0x59B, 0x59B, 220), (0x59C, 0x5A1, 230), (0x5A2, 0x5A7, 220), (0x5A8, 0x5A9, 230),
  (0x5AA, 0x5AA, 220), (0x5AB, 0x5AC, 230), (0x5AD, 0x5AD, 222), (0x5AE, 0x5AE, 228),
  (0x5AF, 0x5AF, 230), (0x5B0, 0x5B0, 10), (0x5B1, 0x5B1, 11), (0x5B2, 0x5B2, 12),
  (0x5B3, 0x5B3, 13), (0x5B4, 0x5B4, 14), (0x5B5, 0x5B5, 15), (0x5B6, 0x5B6, 16),
  (0x5B7, 0x5B7, 17), (0x5B8, 0x5B8, 18), (0x5B9, 0x5BA, 19), (0x5BB, 0x5BB, 20),
  (0x5BC, 0x5BC, 21), (0x5BD, 0x5BD, 22), (0x5BF, 0x5BF, 23), (0x5C1, 0x5C1, 24),
  (0x5C2, 0x5C2, 25), (0x5C4, 0x5C4, 230), (0x5C5, 0x5C5, 220), (0x5C7, 0x5C7, 18),
  (0x610, 0x617, 230), (0x618, 0x618, 30), (0x619, 0x619, 31), (0x61A, 0x61A, 32),
  (0x64B, 0x64B, 27), (0x64C, 0x64C, 28), (0x64D, 0x64D, 29), (0x64E, 0x64E, 30),
  (0x64F, 0x64F, 31), (0x650, 0x650, 32), (0x651, 0x651, 33), (0x652, 0x652, 34),
  (0x653, 0x654, 230), (0x655, 0x656, 220), (0x657, 0x65B, 230), (0x65C, 0x65C, 220),
  (0x65D, 0x65E, 230), (0x65F, 0x65F, 220), (0x670, 0x670, 35), (0x6D6, 0x6DC, 230),
  (0x6DF, 0x6E2, 230), (0x6E3, 0x6E3, 220), (0x6E4, 0x6E4, 230), (0x6E7, 0x6E8, 230),
  (0x6EA, 0x6EA, 220), (0x6EB, 0x6EC, 230), (0x6ED, 0x6ED, 220), (0x711, 0x711, 36),
  (0x730, 0x730, 230), (0x731, 0x731, 220), (0x732, 0x733, 230), (0x734, 0x734, 220),
  (0x735, 0x736, 230), (0x737, 0x739, 220), (0x73A, 0x73A, 230), (0x73B, 0x73C, 220),
  (0x73D, 0x73D, 230), (0x73E, 0x73E, 220), (0x73F, 0x741, 230), (0x742, 0x742, 220),
  (0x743, 0x743, 230), (0x744, 0x744, 220), (0x745, 0x745, 230), (0x746, 0x746, 220),
  (0x747, 0x747, 230), (0x748, 0x748, 220), (0x749, 0x74A, 230), (0x7EB, 0x7F1, 230),
  (0x7F2, 0x7F2, 220), (0x7F3, 0x7F3, 230), (0x7FD, 0x7FD, 220), (0x816, 0x819, 230),
  (0x81B, 0x823, 230), (0x825, 0x827, 230), (0x829, 0x82D, 230), (0x859, 0x85B, 220),
  (0x898, 0x898, 230), (0x899, 0x89B, 220), (0x89C, 0x89F, 230), (0x8CA, 0x8CE, 230),
  (0x8CF, 0x8D3, 220), (0x8D4, 0x8E1, 230), (0x8E3, 0x8E3, 220), (0x8E4, 0x8E5, 230),
  (0x8E6, 0x8E6, 220), (0x8E7, 0x8E8, 230), (0x8E9, 0x8E9, 220), (0x8EA, 0x8EC, 230),
  (0x8ED, 0x8EF, 220), (0x8F0, 0x8F0, 27), (0x8F1, 0x8F1, 28), (0x8F2, 0x8F2, 29),
  (0x8F3, 0x8F5, 230), (0x8F6, 0x8F6, 220), (0x8F7, 0x8F8, 230), (0x8F9, 0x8FA, 220),
  (0x8FB, 0x8FF, 230), (0x93C, 0x93C, 7), (0x94D, 0x94D, 9), (0x951, 0x951, 230),
  (0x952, 0x952, 220), (0x953, 0x954, 230), (0x9BC, 0x9BC, 7), (0x9CD, 0x9CD, 9),
  (0x9FE, 0x9FE, 230), (0xA3C, 0xA3C, 7), (0xA4D, 0xA4D, 9), (0xABC, 0xABC, 7), (0xACD, 0xACD, 9),
  (0xB3C, 0xB3C, 7), (0xB4D, 0xB4D, 9), (0xBCD, 0xBCD, 9), (0xC3C, 0xC3C, 7), (0xC4D, 0xC4D, 9),
  (0xC55, 0xC55, 84), (0xC56, 0xC56, 91), (0xCBC, 0xCBC, 7), (0xCCD, 0xCCD, 9), (0xD3B, 0xD3C, 9),
  (0xD4D, 0xD4D, 9), (0xDCA, 0xDCA, 9), (0xE38, 0xE39, 103), (0xE3A, 0xE3A, 9),
  (0xE48, 0xE4B, 107), (0xEB8, 0xEB9, 118), (0xEBA, 0xEBA, 9), (0xEC8, 0xECB, 122),
  (0xF18, 0xF19, 220), (0xF35, 0xF35, 220), (0xF37, 0xF37, 220), (0xF39, 0xF39, 216),
  (0xF71, 0xF71, 129), (0xF72, 0xF72, 130), (0xF74, 0xF74, 132), (0xF7A, 0xF7D, 130),
  (0xF80, 0xF80, 130), (0xF82, 0xF83, 230), (0xF84, 0xF84, 9), (0xF86, 0xF87, 230),
  (0xFC6, 0xFC6, 220), (0x1037, 0x1037, 7), (0x1039, 0x103A, 9), (0x108D, 0x108D, 220),
  (0x135D, 0x135F, 230), (0x1714, 0x1715, 9), (0x1734, 0x1734, 9), (0x17D2, 0x17D2, 9),
  (0x17DD, 0x17DD, 230), (0x18A9, 0x18A9, 228), (0x1939, 0x1939, 222), (0x193A, 0x193A, 230),
  (0x193B, 0x193B, 220), (0x1A17, 0x1A17, 230), (0x1A18, 0x1A18, 220), (0x1A60, 0x1A60, 9),
  (0x1A75, 0x1A7C, 230), (0x1A7F, 0x1A7F, 220), (0x1AB0, 0x1AB4, 230), (0x1AB5, 0x1ABA, 220),
  (0x1ABB, 0x1ABC, 230), (0x1ABD, 0x1ABD, 220), (0x1ABF, 0x1AC0, 220), (0x1AC1, 0x1AC2, 230),
  (0x1AC3, 0x1AC4, 220), (0x1AC5, 0x1AC9, 230), (0x1ACA, 0x1ACA, 220), (0x1ACB, 0x1ACE, 230),
  (0x1B34, 0x1B34, 7), (0x1B44, 0x1B44, 9), (0x1B6B, 0x1B6B, 230), (0x1B6C, 0x1B6C, 220),
  (0x1B6D, 0x1B73, 230), (0x1BAA, 0x1BAB, 9), (0x1BE6, 0x1BE6, 7), (0x1BF2, 0x1BF3, 9),
  (0x1C37, 0x1C37, 7), (0x1CD0, 0x1CD2, 230), (0x1CD4, 0x1CD4, 1), (0x1CD5, 0x1CD9, 220),
  (0x1CDA, 0x1CDB, 230), (0x1CDC, 0x1CDF, 220), (0x1CE0, 0x1CE0, 230), (0x1CE2, 0x1CE8, 1),
  (0x1CED, 0x1CED, 220), (0x1CF4, 0x1CF4, 230), (0x1CF8, 0x1CF9, 230), (0x1DC0, 0x1DC1, 230),
  (0x1DC2, 0x1DC2, 220), (0x1DC3, 0x1DC9, 230), (0x1DCA, 0x1DCA, 220), (0x1DCB, 0x1DCC, 230),
  (0x1DCD, 0x1DCD, 234), (0x1DCE, 0x1DCE, 214), (0x1DCF, 0x1DCF, 220), (0x1DD0, 0x1DD0, 202),
  (0x1DD1, 0x1DF5, 230), (0x1DF6, 0x1DF6, 232), (0x1DF7, 0x1DF8, 228), (0x1DF9, 0x1DF9, 220),
  (0x1DFA, 0x1DFA, 218), (0x1DFB, 0x1DFB, 230), (0x1DFC, 0x1DFC, 233), (0x1DFD, 0x1DFD, 220),
  (0x1DFE, 0x1DFE, 230), (0x1DFF, 0x1DFF, 220), (0x20D0, 0x20D1, 230), (0x20D2, 0x20D3, 1),
  (0x20D4, 0x20D7, 230), (0x20D8, 0x20DA, 1), (0x20DB, 0x20DC, 230), (0x20E1, 0x20E1, 230),
  (0x20E5, 0x20E6, 1), (0x20E7, 0x20E7, 230), (0x20E8, 0x20E8, 220), (0x20E9, 0x20E9, 230),
  (0x20EA, 0x20EB, 1), (0x20EC, 0x20EF, 220), (0x20F0, 0x20F0, 230), (0x2CEF, 0x2CF1, 230),
  (0x2D7F, 0x2D7F, 9), (0x2DE0, 0x2DFF, 230), (0x302A, 0x302A, 218), (0x302B, 0x302B, 228),
  (0x302C, 0x302C, 232), (0x302D, 0x302D, 222), (0x302E, 0x302F, 224), (0x3099, 0x309A, 8),
  (0xA66F, 0xA66F, 230), (0xA674, 0xA67D, 230), (0xA69E, 0xA69F, 230), (0xA6F0, 0xA6F1, 230),
  (0xA806, 0xA806, 9), (0xA82C, 0xA82C, 9), (0xA8C4, 0xA8C4, 9), (0xA8E0, 0xA8F1, 230),
  (0xA92B, 0xA92D, 220), (0xA953, 0xA953, 9), (0xA9B3, 0xA9B3, 7), (0xA9C0, 0xA9C0, 9),
  (0xAAB0, 0xAAB0, 230), (0xAAB2, 0xAAB3, 230), (0xAAB4, 0xAAB4, 220), (0xAAB7, 0xAAB8, 230),
  (0xAABE, 0xAABF, 230), (0xAAC1, 0xAAC1, 230), (0xAAF6, 0xAAF6, 9), (0xABED, 0xABED, 9),
  (0xFB1E, 0xFB1E, 26), (0xFE20, 0xFE26, 230), (0xFE27, 0xFE2D, 220), (0xFE2E, 0xFE2F, 230),
  (0x101FD, 0x101FD, 220), (0x102E0, 0x102E0, 220), (0x10376, 0x1037A, 230),
  (0x10A0D, 0x10A0D, 220), (0x10A0F, 0x10A0F, 230), (0x10A38, 0x10A38, 230),
  (0x10A39, 0x10A39, 1), (0x10A3A, 0x10A3A, 220), (0x10A3F, 0x10A3F, 9), (0x10AE5, 0x10AE5, 230),
  (0x10AE6, 0x10AE6, 220), (0x10D24, 0x10D27, 230), (0x10EAB, 0x10EAC, 230),
  (0x10F46, 0x10F47, 220), (0x10F48, 0x10F4A, 230), (0x10F4B, 0x10F4B, 220),
  (0x10F4C, 0x10F4C, 230), (0x10F4D, 0x10F50, 220), (0x10F82, 0x10F82, 230),
  (0x10F83, 0x10F83, 220), (0x10F84, 0x10F84, 230), (0x10F85, 0x10F85, 220),
  (0x11046, 0x11046, 9), (0x11070, 0x11070, 9), (0x1107F, 0x1107F, 9), (0x110B9, 0x110B9, 9),
  (0x110BA, 0x110BA, 7), (0x11100, 0x11102, 230), (0x11133, 0x11134, 9), (0x11173, 0x11173, 7),
  (0x111C0, 0x111C0, 9), (0x111CA, 0x111CA, 7), (0x11235, 0x11235, 9), (0x11236, 0x11236, 7),
  (0x112E9, 0x112E9, 7), (0x112EA, 0x112EA, 9), (0x1133B, 0x1133C, 7), (0x1134D, 0x1134D, 9),
  (0x11366, 0x1136C, 230), (0x11370, 0x11374, 230), (0x11442, 0x11442, 9), (0x11446, 0x11446, 7),
  (0x1145E, 0x1145E, 230), (0x114C2, 0x114C2, 9), (0x114C3, 0x114C3, 7), (0x115BF, 0x115BF, 9),
  (0x115C0, 0x115C0, 7), (0x1163F, 0x1163F, 9), (0x116B6, 0x116B6, 9), (0x116B7, 0x116B7, 7),
  (0x1172B, 0x1172B, 9), (0x11839, 0x11839, 9), (0x1183A, 0x1183A, 7), (0x1193D, 0x1193E, 9),
  (0x11943, 0x11943, 7), (0x119E0, 0x119E0, 9), (0x11A34, 0x11A34, 9), (0x11A47, 0x11A47, 9),
  (0x11A99, 0x11A99, 9), (0x11C3F, 0x11C3F, 9), (0x11D42, 0x11D42, 7), (0x11D44, 0x11D45, 9),
  (0x11D97, 0x11D97, 9), (0x16AF0, 0x16AF4, 1), (0x16B30, 0x16B36, 230), (0x16FF0, 0x16FF1, 6),
  (0x1BC9E, 0x1BC9E, 1), (0x1D165, 0x1D166, 216), (0x1D167, 0x1D169, 1), (0x1D16D, 0x1D16D, 226),
  (0x1D16E, 0x1D172, 216), (0x1D17B, 0x1D182, 220), (0x1D185, 0x1D189, 230),
  (0x1D18A, 0x1D18B, 220), (0x1D1AA, 0x1D1AD, 230), (0x1D242, 0x1D244, 230),
  (0x1E000, 0x1E006, 230), (0x1E008, 0x1E018, 230), (0x1E01B, 0x1E021, 230),
  (0x1E023, 0x1E024, 230), (0x1E026, 0x1E02A, 230), (0x1E130, 0x1E136, 230),
  (0x1E2AE, 0x1E2AE, 230), (0x1E2EC, 0x1E2EF, 230), (0x1E8D0, 0x1E8D6, 220),
  (0x1E944, 0x1E949, 230), (0x1E94A, 0x1E94A, 7)]

/-- A mark, the letters that it is joined with, and what they are then. -/
def joinedLetters : List (Char × String × String) := [
  ('\u0300',
    "aeinouwyâêôüăēōơưαεηιουωϊϋеиἀἁἐἑἠἡἰἱὀὁὐὑὠὡ",
    "àèìǹòùẁỳầềồǜằḕṑờừὰὲὴὶὸὺὼῒῢѐѝἂἃἒἓἢἣἲἳὂὃὒὓὢὣ"),
  ('\u0301',
    "acegiklmnoprsuwyzâåæçêïôõøüăēōũơưαεηιουωϊϋгкἀἁἐἑἠἡἰἱὀὁὐὑὠὡ",
    "áćéǵíḱĺḿńóṕŕśúẃýźấǻǽḉếḯốṍǿǘắḗṓṹớứάέήίόύώΐΰѓќἄἅἔἕἤἥἴἵὄὅὔὕὤὥ"),
  ('\u0302', "aceghijosuwyzạẹọ", "âĉêĝĥîĵôŝûŵŷẑậệộ"),
  ('\u0303', "aeinouvyâêôăơư", "ãẽĩñõũṽỹẫễỗẵỡữ"),
  ('\u0304', "aegiouyäæõöüǫȧȯαιυиуḷṛ", "āēḡīōūȳǟǣȭȫǖǭǡȱᾱῑῡӣӯḹṝ"),
  ('\u0306', "aegiouȩαιυаежиуạ", "ăĕğĭŏŭḝᾰῐῠӑӗӂйўặ"),
  ('\u0307', "abcdefghmnoprstwxyzśšṣ", "ȧḃċḋėḟġḣṁṅȯṗṙṡṫẇẋẏżṥṧṩ"),
  ('\u0308', "aehiotuwxyõūιυаежзиоучыэіәө", "äëḧïöẗüẅẍÿṏṻϊϋӓёӝӟӥӧӱӵӹӭїӛӫ"),
  ('\u0309', "aeiouyâêôăơư", "ảẻỉỏủỷẩểổẳởử"),
  ('\u030a', "auwy", "åůẘẙ"),
  ('\u030b', "ouу", "őűӳ"),
  ('\u030c', "acdeghijklnorstuzüʒ", "ǎčďěǧȟǐǰǩľňǒřšťǔžǚǯ"),
  ('\u030f', "aeioruѵ", "ȁȅȉȍȑȕѷ"),
  ('\u0311', "aeioru", "ȃȇȋȏȓȗ"),
  ('\u0313', "αεηιορυω", "ἀἐἠἰὀῤὐὠ"),
  ('\u0314', "αεηιορυω", "ἁἑἡἱὁῥὑὡ"),
  ('\u031b', "ou", "ơư"),
  ('\u0323', "abdehiklmnorstuvwyzơư", "ạḅḍẹḥịḳḷṃṇọṛṣṭụṿẉỵẓợự"),
  ('\u0324', "u", "ṳ"),
  ('\u0325', "a", "ḁ"),
  ('\u0326', "st", "șț"),
  ('\u0327', "cdeghklnrst", "çḑȩģḩķļņŗşţ"),
  ('\u0328', "aeiou", "ąęįǫų"),
  ('\u032d', "delntu", "ḓḙḽṋṱṷ"),
  ('\u032e', "h", "ḫ"),
  ('\u0330', "eiu", "ḛḭṵ"),
  ('\u0331', "bdhklnrtz", "ḇḏẖḵḻṉṟṯẕ"),
  ('\u0338',
    "<=>\u2190\u2192\u2194\u21d0\u21d2\u21d4\u2203\u2208\u220b\u2223\u2225\u223c\u2243\u2245" ++
      "\u2248\u224d\u2261\u2264\u2265\u2272\u2273\u2276\u2277\u227a\u227b\u227c\u227d\u2282" ++
      "\u2283\u2286\u2287\u2291\u2292\u22a2\u22a8\u22a9\u22ab\u22b2\u22b3\u22b4\u22b5",
    "\u226e\u2260\u226f\u219a\u219b\u21ae\u21cd\u21cf\u21ce\u2204\u2209\u220c\u2224\u2226" ++
      "\u2241\u2244\u2247\u2249\u226d\u2262\u2270\u2271\u2274\u2275\u2278\u2279\u2280\u2281" ++
      "\u22e0\u22e1\u2284\u2285\u2288\u2289\u22e2\u22e3\u22ac\u22ad\u22ae\u22af\u22ea\u22eb" ++
      "\u22ec\u22ed"),
  ('\u0342', "αηιυωϊϋἀἁἠἡἰἱὐὑὠὡ", "ᾶῆῖῦῶῗῧἆἇἦἧἶἷὖὗὦὧ"),
  ('\u0653', "\u0627", "\u0622"),
  ('\u0654', "\u0627\u0648\u064a\u06c1\u06d2\u06d5", "\u0623\u0624\u0626\u06c2\u06d3\u06c0"),
  ('\u0655', "\u0627", "\u0625"),
  ('\u093c', "नरळ", "ऩऱऴ"),
  ('\u09be', "\u09c7", "\u09cb"),
  ('\u09d7', "\u09c7", "\u09cc"),
  ('\u0b3e', "\u0b47", "\u0b4b"),
  ('\u0b56', "\u0b47", "\u0b48"),
  ('\u0b57', "\u0b47", "\u0b4c"),
  ('\u0bbe', "\u0bc6\u0bc7", "\u0bca\u0bcb"),
  ('\u0bd7', "ஒ\u0bc6", "ஔ\u0bcc"),
  ('\u0c56', "\u0c46", "\u0c48"),
  ('\u0cc2', "\u0cc6", "\u0cca"),
  ('\u0cd5', "\u0cbf\u0cc6\u0cca", "\u0cc0\u0cc7\u0ccb"),
  ('\u0cd6', "\u0cc6", "\u0cc8"),
  ('\u0d3e', "\u0d46\u0d47", "\u0d4a\u0d4b"),
  ('\u0d57', "\u0d46", "\u0d4c"),
  ('\u0dca', "\u0dd9\u0ddc", "\u0dda\u0ddd"),
  ('\u0dcf', "\u0dd9", "\u0ddc"),
  ('\u0ddf', "\u0dd9", "\u0dde"),
  ('\u102e', "ဥ", "ဦ"),
  ('\u1b35', "ᬅᬇᬉᬋᬍᬑ\u1b3a\u1b3c\u1b3e\u1b3f\u1b42", "ᬆᬈᬊᬌᬎᬒ\u1b3b\u1b3d\u1b40\u1b41\u1b43"),
  ('\u3099',
    "うかきくけこさしすせそたちつてとはひふへほゝウカキクケコサシスセソタチツテトハヒフヘホワヰヱヲヽ",
    "ゔがぎぐげござじずぜぞだぢづでどばびぶべぼゞヴガギグゲゴザジズゼゾダヂヅデドバビブベボヷヸヹヺヾ"),
  ('\u309a', "はひふへほハヒフヘホ", "ぱぴぷぺぽパピプペポ"),
  ('𑂺', "𑂙𑂛𑂥", "𑂚𑂜𑂫"),
  ('𑄧', "𑄱𑄲", "𑄮𑄯"),
  ('𑌾', "𑍇", "𑍋"),
  ('𑍗', "𑍇", "𑍌"),
  ('𑒰', "𑒹", "𑒼"),
  ('𑒺', "𑒹", "𑒻"),
  ('𑒽', "𑒹", "𑒾"),
  ('𑖯', "𑖸𑖹", "𑖺𑖻"),
  ('𑤰', "𑤵", "𑤸")]

def rightToLeft : Array (Nat × Nat) := #[
  (0x5BE, 0x5BE), (0x5C0, 0x5C0), (0x5C3, 0x5C3), (0x5D0, 0x5EA), (0x5F0, 0x5F4), (0x61B, 0x61B),
  (0x61F, 0x61F), (0x621, 0x63A), (0x640, 0x64A), (0x66D, 0x66F), (0x671, 0x6D5), (0x6E5, 0x6E6),
  (0x6FA, 0x6FE), (0x700, 0x70D), (0x710, 0x710), (0x712, 0x72C), (0x780, 0x7A5), (0x7B1, 0x7B1),
  (0xFE73, 0xFE73)]

def leftToRight : Array (Nat × Nat) := #[
  (0x61, 0x7A), (0xE0, 0xF6), (0xF8, 0x21F), (0x223, 0x233), (0x250, 0x2AD), (0x2BB, 0x2C1),
  (0x2D0, 0x2D1), (0x2EE, 0x2EE), (0x390, 0x390), (0x3AC, 0x3F3), (0x430, 0x482), (0x48B, 0x4CE),
  (0x4D1, 0x4F5), (0x4F9, 0x4F9), (0x501, 0x50F), (0x559, 0x55F), (0x561, 0x586), (0x589, 0x589),
  (0x903, 0x903), (0x905, 0x939), (0x93D, 0x940), (0x949, 0x94C), (0x950, 0x950), (0x960, 0x961),
  (0x964, 0x970), (0x982, 0x983), (0x985, 0x98C), (0x98F, 0x990), (0x993, 0x9A8), (0x9AA, 0x9B0),
  (0x9B2, 0x9B2), (0x9B6, 0x9B9), (0x9BE, 0x9C0), (0x9C7, 0x9C8), (0x9CB, 0x9CC), (0x9D7, 0x9D7),
  (0x9E0, 0x9E1), (0x9E6, 0x9F1), (0x9F4, 0x9FA), (0xA05, 0xA0A), (0xA0F, 0xA10), (0xA13, 0xA28),
  (0xA2A, 0xA30), (0xA32, 0xA32), (0xA35, 0xA35), (0xA38, 0xA39), (0xA3E, 0xA40), (0xA5C, 0xA5C),
  (0xA66, 0xA6F), (0xA72, 0xA74), (0xA83, 0xA83), (0xA85, 0xA8B), (0xA8D, 0xA8D), (0xA8F, 0xA91),
  (0xA93, 0xAA8), (0xAAA, 0xAB0), (0xAB2, 0xAB3), (0xAB5, 0xAB9), (0xABD, 0xAC0), (0xAC9, 0xAC9),
  (0xACB, 0xACC), (0xAD0, 0xAD0), (0xAE0, 0xAE0), (0xAE6, 0xAEF), (0xB02, 0xB03), (0xB05, 0xB0C),
  (0xB0F, 0xB10), (0xB13, 0xB28), (0xB2A, 0xB30), (0xB32, 0xB33), (0xB36, 0xB39), (0xB3D, 0xB3E),
  (0xB40, 0xB40), (0xB47, 0xB48), (0xB4B, 0xB4C), (0xB57, 0xB57), (0xB5F, 0xB61), (0xB66, 0xB70),
  (0xB83, 0xB83), (0xB85, 0xB8A), (0xB8E, 0xB90), (0xB92, 0xB95), (0xB99, 0xB9A), (0xB9C, 0xB9C),
  (0xB9E, 0xB9F), (0xBA3, 0xBA4), (0xBA8, 0xBAA), (0xBAE, 0xBB5), (0xBB7, 0xBB9), (0xBBE, 0xBBF),
  (0xBC1, 0xBC2), (0xBC6, 0xBC8), (0xBCA, 0xBCC), (0xBD7, 0xBD7), (0xBE7, 0xBF2), (0xC01, 0xC03),
  (0xC05, 0xC0C), (0xC0E, 0xC10), (0xC12, 0xC28), (0xC2A, 0xC33), (0xC35, 0xC39), (0xC41, 0xC44),
  (0xC60, 0xC61), (0xC66, 0xC6F), (0xC82, 0xC83), (0xC85, 0xC8C), (0xC8E, 0xC90), (0xC92, 0xCA8),
  (0xCAA, 0xCB3), (0xCB5, 0xCB9), (0xCBE, 0xCBE), (0xCC0, 0xCC4), (0xCC7, 0xCC8), (0xCCA, 0xCCB),
  (0xCD5, 0xCD6), (0xCDE, 0xCDE), (0xCE0, 0xCE1), (0xCE6, 0xCEF), (0xD02, 0xD03), (0xD05, 0xD0C),
  (0xD0E, 0xD10), (0xD12, 0xD28), (0xD2A, 0xD39), (0xD3E, 0xD40), (0xD46, 0xD48), (0xD4A, 0xD4C),
  (0xD57, 0xD57), (0xD60, 0xD61), (0xD66, 0xD6F), (0xD82, 0xD83), (0xD85, 0xD96), (0xD9A, 0xDB1),
  (0xDB3, 0xDBB), (0xDBD, 0xDBD), (0xDC0, 0xDC6), (0xDCF, 0xDD1), (0xDD8, 0xDDF), (0xDF2, 0xDF4),
  (0xE01, 0xE30), (0xE32, 0xE32), (0xE40, 0xE46), (0xE4F, 0xE5B), (0xE81, 0xE82), (0xE84, 0xE84),
  (0xE87, 0xE88), (0xE8A, 0xE8A), (0xE8D, 0xE8D), (0xE94, 0xE97), (0xE99, 0xE9F), (0xEA1, 0xEA3),
  (0xEA5, 0xEA5), (0xEA7, 0xEA7), (0xEAA, 0xEAB), (0xEAD, 0xEB0), (0xEB2, 0xEB2), (0xEBD, 0xEBD),
  (0xEC0, 0xEC4), (0xEC6, 0xEC6), (0xED0, 0xED9), (0xF00, 0xF17), (0xF1A, 0xF34), (0xF36, 0xF36),
  (0xF38, 0xF38), (0xF3E, 0xF47), (0xF49, 0xF6A), (0xF7F, 0xF7F), (0xF85, 0xF85), (0xF88, 0xF8B),
  (0xFBE, 0xFC5), (0xFC7, 0xFCC), (0xFCF, 0xFCF), (0x1000, 0x1021), (0x1023, 0x1027),
  (0x1029, 0x102A), (0x102C, 0x102C), (0x1031, 0x1031), (0x1038, 0x1038), (0x1040, 0x1057),
  (0x10D0, 0x10F8), (0x10FB, 0x10FB), (0x1100, 0x1159), (0x115F, 0x11A2), (0x11A8, 0x11F9),
  (0x1200, 0x1206), (0x1208, 0x1246), (0x1248, 0x1248), (0x124A, 0x124D), (0x1250, 0x1256),
  (0x1258, 0x1258), (0x125A, 0x125D), (0x1260, 0x1286), (0x1288, 0x1288), (0x128A, 0x128D),
  (0x1290, 0x12AE), (0x12B0, 0x12B0), (0x12B2, 0x12B5), (0x12B8, 0x12BE), (0x12C0, 0x12C0),
  (0x12C2, 0x12C5), (0x12C8, 0x12CE), (0x12D0, 0x12D6), (0x12D8, 0x12EE), (0x12F0, 0x130E),
  (0x1310, 0x1310), (0x1312, 0x1315), (0x1318, 0x131E), (0x1320, 0x1346), (0x1348, 0x135A),
  (0x1361, 0x137C), (0x1401, 0x1676), (0x1681, 0x169A), (0x16A0, 0x16F0), (0x1700, 0x170C),
  (0x170E, 0x1711), (0x1720, 0x1731), (0x1735, 0x1736), (0x1740, 0x1751), (0x1760, 0x176C),
  (0x176E, 0x1770), (0x1780, 0x17B6), (0x17BE, 0x17C5), (0x17C7, 0x17C8), (0x17D4, 0x17DA),
  (0x17DC, 0x17DC), (0x17E0, 0x17E9), (0x1810, 0x1819), (0x1820, 0x1877), (0x1880, 0x18A8),
  (0x1E01, 0x1E99), (0x1EA1, 0x1EF9), (0x1F00, 0x1F15), (0x1F20, 0x1F45), (0x1F50, 0x1F57),
  (0x1F60, 0x1F7C), (0x1FB0, 0x1FB1), (0x1FB6, 0x1FB6), (0x1FC6, 0x1FD2), (0x1FD6, 0x1FD7),
  (0x1FE0, 0x1FE7), (0x1FF6, 0x1FF6), (0x2180, 0x2182), (0x2336, 0x237A), (0x2395, 0x2395),
  (0x3005, 0x3007), (0x3021, 0x3029), (0x3031, 0x3035), (0x303B, 0x303C), (0x3041, 0x3096),
  (0x309D, 0x309E), (0x30A1, 0x30FA), (0x30FC, 0x30FE), (0x3105, 0x312C), (0x3190, 0x31B7),
  (0x31F0, 0x31FF), (0x327F, 0x327F), (0x3400, 0x4DB5), (0x4E00, 0x9FA5), (0xA000, 0xA48C),
  (0xAC00, 0xD7A3), (0xFA0E, 0xFA29), (0x10300, 0x1031E), (0x10320, 0x10323), (0x10330, 0x1034A),
  (0x10428, 0x1044D), (0x1D000, 0x1D0F5), (0x1D100, 0x1D126), (0x1D12A, 0x1D166),
  (0x1D16A, 0x1D172), (0x1D183, 0x1D184), (0x1D18C, 0x1D1A9), (0x1D1AE, 0x1D1DD),
  (0x20000, 0x2A6D6)]

end Warden.Text.CharacterSet.HostName

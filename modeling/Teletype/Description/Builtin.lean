/-!
# Descriptions known from the start

A handful of terminal types are known without asking anyone: the plain and the
colour variants of common terminals, the console with and without escape
sequence support, and `ansi`, which also stands in for every type that nobody
knows.
-/

namespace Teletype.Description

/-- A colour terminal in the ANSI manner. -/
def ansiText : String :=
  "ansi|ansi/pc-term compatible with color,\n" ++
  "\tam, mir, msgr,\n" ++
  "\tcolors#8, cols#80, it#8, lines#24, ncv#3, pairs#64,\n" ++
  "\tbel=^G, blink=\\E[5m, bold=\\E[1m, cbt=\\E[Z, clear=\\E[H\\E[J,\n" ++
  "\tcr=^M, cub=\\E[%p1%dD, cub1=\\E[D, cud=\\E[%p1%dB, cud1=\\E[B,\n" ++
  "\tcuf=\\E[%p1%dC, cuf1=\\E[C, cup=\\E[%i%p1%d;%p2%dH,\n" ++
  "\tcuu=\\E[%p1%dA, cuu1=\\E[A, dch=\\E[%p1%dP, dch1=\\E[P,\n" ++
  "\tdl=\\E[%p1%dM, dl1=\\E[M, ech=\\E[%p1%dX, ed=\\E[J, el=\\E[K,\n" ++
  "\tel1=\\E[1K, home=\\E[H, hpa=\\E[%i%p1%dG, ht=\\E[I,\n" ++
  "\tich=\\E[%p1%d@, il=\\E[%p1%dL, il1=\\E[L, ind=^J,\n" ++
  "\tindn=\\E[%p1%dS, invis=\\E[8m, kbs=^H, kcbt=\\E[Z, kcub1=\\E[D,\n" ++
  "\tkcud1=\\E[B, kcuf1=\\E[C, kcuu1=\\E[A, khome=\\E[H, kich1=\\E[L,\n" ++
  "\tnel=\\r\\E[S, op=\\E[39;49m, rev=\\E[7m, ri=\\E[T, rin=\\E[%p1%dT,\n" ++
  "\trmacs=\\E[10m, rmso=\\E[m, rmul=\\E[m, setab=\\E[4%p1%dm,\n" ++
  "\tsetaf=\\E[3%p1%dm, sgr0=\\E[0;10m, smacs=\\E[11m, smso=\\E[7m,\n" ++
  "\tsmul=\\E[4m, u6=\\E[%i%d;%dR, u7=\\E[6n, u8=\\E[?%[;0123456789]c,\n" ++
  "\tu9=\\E[c, vpa=\\E[%i%p1%dd,\n"

/-- A terminal that can only print. -/
def dumbText : String :=
  "dumb|80-column dumb tty,\n" ++
  "\tam,\n" ++
  "\tcols#80,\n" ++
  "\tbel=^G, cr=^M, cud1=^J, ind=^J,\n"

/-- What the xterm variants share. -/
def xtermShared : String :=
  "am, bce, km, mir, msgr, xenl,\n" ++
  "\tcols#80, it#8, lines#24,\n" ++
  "\tbel=^G, blink=\\E[5m, bold=\\E[1m, cbt=\\E[Z, civis=\\E[?25l,\n" ++
  "\tclear=\\E[H\\E[2J, cnorm=\\E[?12l\\E[?25h, cr=^M,\n" ++
  "\tcsr=\\E[%i%p1%d;%p2%dr, cub=\\E[%p1%dD, cub1=^H,\n" ++
  "\tcud=\\E[%p1%dB, cud1=^J, cuf=\\E[%p1%dC, cuf1=\\E[C,\n" ++
  "\tcup=\\E[%i%p1%d;%p2%dH, cuu=\\E[%p1%dA, cuu1=\\E[A,\n" ++
  "\tcvvis=\\E[?12;25h, dch=\\E[%p1%dP, dch1=\\E[P, dim=\\E[2m,\n" ++
  "\tdl=\\E[%p1%dM, dl1=\\E[M, ech=\\E[%p1%dX, ed=\\E[J, el=\\E[K,\n" ++
  "\tel1=\\E[1K, flash=\\E[?5h$<100/>\\E[?5l, home=\\E[H,\n" ++
  "\thpa=\\E[%i%p1%dG, ht=^I, ich=\\E[%p1%d@, il=\\E[%p1%dL,\n" ++
  "\til1=\\E[L, ind=^J, indn=\\E[%p1%dS, invis=\\E[8m,\n" ++
  "\tkbs=^?, kcbt=\\E[Z, kcub1=\\EOD, kcud1=\\EOB, kcuf1=\\EOC,\n" ++
  "\tkcuu1=\\EOA, kdch1=\\E[3~, kend=\\EOF, kent=\\EOM, kf1=\\EOP,\n" ++
  "\tkf10=\\E[21~, kf11=\\E[23~, kf12=\\E[24~, kf2=\\EOQ,\n" ++
  "\tkf3=\\EOR, kf4=\\EOS, kf5=\\E[15~, kf6=\\E[17~, kf7=\\E[18~,\n" ++
  "\tkf8=\\E[19~, kf9=\\E[20~, khome=\\EOH, kich1=\\E[2~,\n" ++
  "\tkmous=\\E[M, knp=\\E[6~, kpp=\\E[5~, nel=\\EE, rc=\\E8, rev=\\E[7m,\n" ++
  "\tri=\\EM, rin=\\E[%p1%dT, ritm=\\E[23m, rmacs=\\E(B, rmam=\\E[?7l,\n" ++
  "\trmcup=\\E[?1049l\\E[23;0;0t, rmkx=\\E[?1l\\E>, rmso=\\E[27m,\n" ++
  "\trmul=\\E[24m, sc=\\E7, sgr0=\\E(B\\E[m, sitm=\\E[3m, smacs=\\E(0,\n" ++
  "\tsmam=\\E[?7h, smcup=\\E[?1049h\\E[22;0;0t, smkx=\\E[?1h\\E=,\n" ++
  "\tsmso=\\E[7m, smul=\\E[4m, u6=\\E[%i%d;%dR, u7=\\E[6n,\n" ++
  "\tu8=\\E[?%[;0123456789]c, u9=\\E[c, vpa=\\E[%i%p1%dd,\n" ++
  "\top=\\E[39;49m,\n"

/-- A terminal emulator with eight colours. -/
def xtermText : String :=
  "xterm|xterm terminal emulator (X Window System),\n" ++
  "\t" ++ xtermShared ++
  "\tcolors#8, pairs#64,\n" ++
  "\tsetab=\\E[4%p1%dm, setaf=\\E[3%p1%dm,\n" ++
  "\tsetb=\\E[4%?%p1%\x7b1\x7d%=%t4%e%p1%\x7b3\x7d%=%t6%e%p1%\x7b4\x7d%=%t1%e%p1%\x7b6\x7d%=%t3%e%p1%d%;m,\n" ++
  "\tsetf=\\E[3%?%p1%\x7b1\x7d%=%t4%e%p1%\x7b3\x7d%=%t6%e%p1%\x7b4\x7d%=%t1%e%p1%\x7b6\x7d%=%t3%e%p1%d%;m,\n"

/-- A terminal emulator with 256 colours. -/
def xterm256Text : String :=
  "xterm-256color|xterm with 256 colors,\n" ++
  "\t" ++ xtermShared ++
  "\tccc, colors#256, pairs#65536,\n" ++
  "\tsetab=\\E[%?%p1%\x7b8\x7d%<%t4%p1%d%e%p1%\x7b16\x7d%<%t10%p1%\x7b8\x7d%-%d%e48;5;%p1%d%;m,\n" ++
  "\tsetaf=\\E[%?%p1%\x7b8\x7d%<%t3%p1%d%e%p1%\x7b16\x7d%<%t9%p1%\x7b8\x7d%-%d%e38;5;%p1%d%;m,\n"

/-- A terminal multiplexer. -/
def screenText : String :=
  "screen|VT 100/ANSI X3.64 virtual terminal,\n" ++
  "\tam, km, mir, msgr, xenl,\n" ++
  "\tcolors#8, cols#80, it#8, lines#24, pairs#64,\n" ++
  "\tbel=^G, blink=\\E[5m, bold=\\E[1m, cbt=\\E[Z, civis=\\E[?25l,\n" ++
  "\tclear=\\E[H\\E[J, cnorm=\\E[34h\\E[?25h, cr=^M,\n" ++
  "\tcsr=\\E[%i%p1%d;%p2%dr, cub=\\E[%p1%dD, cub1=^H,\n" ++
  "\tcud=\\E[%p1%dB, cud1=^J, cuf=\\E[%p1%dC, cuf1=\\E[C,\n" ++
  "\tcup=\\E[%i%p1%d;%p2%dH, cuu=\\E[%p1%dA, cuu1=\\EM,\n" ++
  "\tcvvis=\\E[34l, dch=\\E[%p1%dP, dch1=\\E[P, dim=\\E[2m,\n" ++
  "\tdl=\\E[%p1%dM, dl1=\\E[M, ed=\\E[J, el=\\E[K, el1=\\E[1K,\n" ++
  "\tflash=\\Eg, home=\\E[H, ht=^I, ich=\\E[%p1%d@, il=\\E[%p1%dL,\n" ++
  "\til1=\\E[L, ind=^J, kbs=^H, kcbt=\\E[Z, kcub1=\\EOD, kcud1=\\EOB,\n" ++
  "\tkcuf1=\\EOC, kcuu1=\\EOA, kdch1=\\E[3~, kend=\\E[4~, kf1=\\EOP,\n" ++
  "\tkf10=\\E[21~, kf11=\\E[23~, kf12=\\E[24~, kf2=\\EOQ, kf3=\\EOR,\n" ++
  "\tkf4=\\EOS, kf5=\\E[15~, kf6=\\E[17~, kf7=\\E[18~, kf8=\\E[19~,\n" ++
  "\tkf9=\\E[20~, khome=\\E[1~, kich1=\\E[2~, kmous=\\E[M, knp=\\E[6~,\n" ++
  "\tkpp=\\E[5~, nel=\\EE, op=\\E[39;49m, rc=\\E8, rev=\\E[7m, ri=\\EM,\n" ++
  "\trmacs=^O, rmcup=\\E[?1049l, rmkx=\\E[?1l\\E>, rmso=\\E[23m,\n" ++
  "\trmul=\\E[24m, sc=\\E7, setab=\\E[4%p1%dm, setaf=\\E[3%p1%dm,\n" ++
  "\tsgr0=\\E[m^O, smacs=^N, smcup=\\E[?1049h, smkx=\\E[?1h\\E=,\n" ++
  "\tsmso=\\E[3m, smul=\\E[4m, u6=\\E[%i%d;%dR, u7=\\E[6n,\n"

/-- What the console variants share. -/
def consoleShared : String :=
  "am, mir, msgr,\n" ++
  "\tcols#80, it#8, lines#24, ncv#3,\n" ++
  "\tbel=^G, blink=\\E[5m, bold=\\E[1m, cbt=\\E[Z, clear=\\E[H\\E[J,\n" ++
  "\tcr=^M, cub=\\E[%p1%dD, cub1=\\E[D, cud=\\E[%p1%dB, cud1=\\E[B,\n" ++
  "\tcuf=\\E[%p1%dC, cuf1=\\E[C, cup=\\E[%i%p1%d;%p2%dH,\n" ++
  "\tcuu=\\E[%p1%dA, cuu1=\\E[A, dl=\\E[%p1%dM, dl1=\\E[M,\n" ++
  "\tech=\\E[%p1%dX, ed=\\E[J, el=\\E[K, el1=\\E[1K, home=\\E[H,\n" ++
  "\thpa=\\E[%i%p1%dG, ht=^I, il=\\E[%p1%dL, il1=\\E[L, ind=^J,\n" ++
  "\tinvis=\\E[8m, kbs=^H, kcbt=\\E[Z, kcub1=\\E[D, kcud1=\\E[B,\n" ++
  "\tkcuf1=\\E[C, kcuu1=\\E[A, kdch1=\\E[3~, kend=\\E[F, kf1=\\EOP,\n" ++
  "\tkf10=\\E[21~, kf11=\\E[23~, kf12=\\E[24~, kf2=\\EOQ, kf3=\\EOR,\n" ++
  "\tkf4=\\EOS, kf5=\\E[15~, kf6=\\E[17~, kf7=\\E[18~, kf8=\\E[19~,\n" ++
  "\tkf9=\\E[20~, khome=\\E[H, kich1=\\E[2~, kmous=\\E[M, knp=\\E[6~,\n" ++
  "\tkpp=\\E[5~, op=\\E[39;49m, rc=\\E[u, rev=\\E[7m, ri=\\E[T,\n" ++
  "\trin=\\E[%p1%dT, rmso=\\E[27m, rmul=\\E[24m, sc=\\E[s,\n" ++
  "\tsgr0=\\E[0m, smso=\\E[7m, smul=\\E[4m, u6=\\E[%i%d;%dR,\n" ++
  "\tu7=\\E[6n, vpa=\\E[%i%p1%dd,\n"

/-- A console that interprets no escape sequences. -/
def consoleText : String :=
  "windows|windows console,\n" ++
  "\t" ++ consoleShared ++
  "\tcolors#16, pairs#256,\n" ++
  "\tsetab=\\E[%?%p1%\x7b8\x7d%<%t4%p1%d%e10%p1%\x7b8\x7d%-%d%;m,\n" ++
  "\tsetaf=\\E[%?%p1%\x7b8\x7d%<%t3%p1%d%e9%p1%\x7b8\x7d%-%d%;m,\n"

/-- A console that interprets escape sequences. -/
def consoleVtText : String :=
  "windows-vtp|windows console with virtual terminal processing,\n" ++
  "\t" ++ consoleShared ++
  "\tbce, ccc, colors#256, pairs#65536,\n" ++
  "\tcivis=\\E[?25l, cnorm=\\E[?25h, csr=\\E[%i%p1%d;%p2%dr,\n" ++
  "\tdch=\\E[%p1%dP, dch1=\\E[P, ich=\\E[%p1%d@, indn=\\E[%p1%dS,\n" ++
  "\trmcup=\\E[?1049l, smcup=\\E[?1049h, sitm=\\E[3m, ritm=\\E[23m,\n" ++
  "\tsetab=\\E[%?%p1%\x7b8\x7d%<%t4%p1%d%e%p1%\x7b16\x7d%<%t10%p1%\x7b8\x7d%-%d%e48;5;%p1%d%;m,\n" ++
  "\tsetaf=\\E[%?%p1%\x7b8\x7d%<%t3%p1%d%e%p1%\x7b16\x7d%<%t9%p1%\x7b8\x7d%-%d%e38;5;%p1%d%;m,\n"

/-- **The description of a type known from the start.** -/
def builtin? : String → Option String
  | "ansi" => some ansiText
  | "dumb" => some dumbText
  | "xterm" => some xtermText
  | "xterm-256color" => some xterm256Text
  | "screen" => some screenText
  | "windows" => some consoleText
  | "windows-vtp" => some consoleVtText
  | _ => none

end Teletype.Description

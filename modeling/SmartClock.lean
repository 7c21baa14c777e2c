import SmartClock.Run.Machine
import SmartClock.Run.Partial
import SmartClock.Alarm.State
import SmartClock.Alarm.Phase
import SmartClock.Alarm.Clock
import SmartClock.Alarm.Loop
import SmartClock.Alarm.Schedule
import SmartClock.Alarm.Durations
import SmartClock.Alarm.Daily
import SmartClock.Calendar.Gregorian
import SmartClock.Text.Search
import SmartClock.Text.CString
import SmartClock.Json.Value
import SmartClock.Json.Scan
import SmartClock.Text.CharArray
import SmartClock.Net.Data
import SmartClock.Net.ParseInfo
import SmartClock.Proxy.Python
import SmartClock.Proxy.Info
import SmartClock.Net.InfoMembers
import SmartClock.Net.ErrorAnswer
import SmartClock.Net.InfoRoundTrip
import SmartClock.Proxy.News
import SmartClock.Net.ParseNews
import SmartClock.Net.NewsBody
import SmartClock.Net.Receive
import SmartClock.Net.Transfer
import SmartClock.Net.ReceiveSafety
import SmartClock.Net.Response
import SmartClock.Net.InfoRequest
import SmartClock.Http.Header
import SmartClock.Net.NewsRequest
import SmartClock.Sync.Semaphore
import SmartClock.Net.StartUp
import SmartClock.Net.Permits
import SmartClock.Net.Ledger
import SmartClock.Screen.DateScreen
import SmartClock.Net.Chunking
import SmartClock.Net.SuccessComplete
import SmartClock.Net.Threads
import SmartClock.Net.Snapshot
import SmartClock.Alarm.Buttons
import SmartClock.Lists.FirstOccurrences
import SmartClock.Proxy.NewsTitles
import SmartClock.Lcd.Display
import SmartClock.Screen.LcdShow
import SmartClock.Screen.TempHum
import SmartClock.Net.Articles
import SmartClock.Net.TitleScanner
import SmartClock.Alarm.Speaker
import SmartClock.Alarm.Statements
import SmartClock.Alarm.Assignments
import SmartClock.Screen.AlarmScreen
import SmartClock.Net.Latest
import SmartClock.Net.Unblocked
import SmartClock.Net.InfoLoop
import SmartClock.Screen.InfoScreens
import SmartClock.Net.InfoScanner
import SmartClock.Screen.DateRuns
import SmartClock.Screen.Cycle
import SmartClock.Net.NewsLoop
import SmartClock.Screen.NewsPages
import SmartClock.Net.Address
import SmartClock.Net.Download
import SmartClock.Screen.StatusBetween
